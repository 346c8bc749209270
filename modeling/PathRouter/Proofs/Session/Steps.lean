import PathRouter.Proofs.Table.History
import PathRouter.Session

/-!
# What a command does

A command to a table changes a few of the things that a session keeps.  This file says once what
becomes of them (`Session.tableStep_session`), so that proofs about runs need not look into the
commands again.  The tables change by at most one event, the one that the command asks for
(`Session.request?`); kept registrations, snapshots and iterators change under the name that the
command gives; recorders change by registering and dispatching, and nothing else does.  A command
that reaches no table leaves the recorders alone, and all that it does to the tables is to add one
(`Session.step_cases`).

A command that asks for a registration hands it to the table (`Session.tableStep_of_register`), and
one that asks for an event is answered as the table answers it (`Session.answer_of_register`,
`Session.answer_of_freeze`).  Therefore a command that fails leaves all tables unchanged
(`Session.tables_of_error`).

Runs are read from their ends: `Session.after` is the session after a run.
-/

namespace PathRouter.Session

/-- The event that a command to table `n` asks for, and the number of the table it concerns: a kept
registration stays with its own table. -/
def request? (s : Session) (n : Nat) : TableCommand → Option (Nat × TableEvent Handler)
  | .register method pattern h => some (n, .register ⟨method, pattern, h⟩)
  | .route method pattern h => some (n, .register ⟨method, pattern, h⟩)
  | .apply name h =>
    (s.registrations.get? name).map fun r => (r.table, .register ⟨r.method, r.pattern, h⟩)
  | .freeze => some (n, .freeze)
  | _ => none

/-- The table with a number. -/
def tableAt (s : Session) (n : Nat) : RouteTable Handler := s.tables[n]?.getD ∅

/-- The tables after an event of one of them. -/
def tablesAfter (s : Session) : Option (Nat × TableEvent Handler) → List (RouteTable Handler)
  | some (n, ev) => s.tables.set n ((s.tableAt n).after ev)
  | none => s.tables

/-- The kept registrations after a command to table `n`. -/
def registrationsAfter (s : Session) (n : Nat) : TableCommand → OrderedMap String Registration
  | .keep name method pattern => s.registrations.put name ⟨n, method, pattern⟩
  | _ => s.registrations

/-- The snapshots after a command to table `n`. -/
def snapshotsAfter (s : Session) (n : Nat) :
    TableCommand → OrderedMap String (List (Route Handler))
  | .snapshot name => s.snapshots.put name (s.tableAt n).routes
  | _ => s.snapshots

/-- The iterators after a command to table `n`.  An iterator that is asked for its next route gives
its first one away. -/
def iteratorsAfter (s : Session) (n : Nat) :
    TableCommand → OrderedMap String (List (Route Handler))
  | .iterate name => s.iterators.put name (s.tableAt n).routes
  | .next name =>
    match s.iterators.get? name with
    | some (_ :: rs) => s.iterators.put name rs
    | _ => s.iterators
  | _ => s.iterators

/-- The recorders after a command to table `n`.  Registering prepares the recorder of the handler,
and dispatching calls the handler of the first match. -/
def recordersAfter (s : Session) (n : Nat) : TableCommand → Recorders
  | .register _ _ h => h.prepare s.recorders
  | .route _ _ h => h.prepare s.recorders
  | .apply name h =>
    match s.registrations.get? name with
    | some _ => h.prepare s.recorders
    | none => s.recorders
  | .dispatch method path =>
    match (s.tableAt n).lookup? method path with
    | some hit => (hit.route.handler.invoke hit.params s.recorders).2
    | none => s.recorders
  | _ => s.recorders

/-! ### Registering and dispatching -/

/-- Writing back what is there changes nothing. -/
lemma set_tableAt (s : Session) (n : Nat) : s.tables.set n (s.tableAt n) = s.tables := by
  unfold tableAt
  by_cases h : n < s.tables.length
  · rw [List.getElem?_eq_getElem h, Option.getD_some, List.set_getElem_self]
  · rw [List.set_eq_of_length_le (Nat.not_lt.mp h)]

/-- A registration is handed to its table after the recorder of the handler is prepared. -/
lemma register_eq (s : Session) (r : Registration) (h : Handler) (a : Answer) :
    s.register r h a =
      match (s.tableAt r.table).register r.method r.pattern h with
      | .ok t => ⟨.ok a, t.lastRegistered,
          { s with recorders := h.prepare s.recorders, tables := s.tables.set r.table t }⟩
      | .error e => { s with recorders := h.prepare s.recorders }.refuse (.router e) := by
  unfold register tableAt
  dsimp only
  cases (s.tables[r.table]?.getD ∅).register r.method r.pattern h <;> rfl

/-- A registration is an event of its table, and prepares the recorder of the handler. -/
lemma register_session (s : Session) (r : Registration) (h : Handler) (a : Answer) :
    (s.register r h a).session =
      { s with
        recorders := h.prepare s.recorders
        tables := s.tablesAfter (some (r.table, .register ⟨r.method, r.pattern, h⟩)) } := by
  rw [tablesAfter, RouteTable.after, register_eq]
  cases (s.tableAt r.table).register r.method r.pattern h with
  | ok t => rfl
  | error e =>
    dsimp only
    rw [s.set_tableAt r.table]
    rfl

/-- A registration answers as its table does. -/
lemma register_answer (s : Session) (r : Registration) (h : Handler) (a : Answer) :
    (s.register r h a).answer =
      match (s.tableAt r.table).register r.method r.pattern h with
      | .ok _ => .ok a
      | .error e => .error (.router e) := by
  rw [register_eq]
  cases (s.tableAt r.table).register r.method r.pattern h with
  | ok t => rfl
  | error e => rfl

/-- A request that has a match is answered by the handler of its route, and nothing but the
recorders can change. -/
lemma dispatch_of_some {s : Session} {t : RouteTable Handler} {method path : Value}
    {hit : Hit Handler} (h : t.lookup? method path = some hit) :
    s.dispatch t method path =
      ⟨((hit.route.handler.invoke hit.params s.recorders).1.map Answer.reply).mapError
          SessionError.handler, [],
        { s with recorders := (hit.route.handler.invoke hit.params s.recorders).2 }⟩ := by
  rw [dispatch, RouteTable.dispatch, h]
  dsimp only
  cases hit.route.handler.invoke hit.params s.recorders with
  | mk outcome rs => cases outcome <;> rfl

/-- A request without a match calls nobody. -/
lemma dispatch_of_none {s : Session} {t : RouteTable Handler} {method path : Value}
    (h : t.lookup? method path = none) :
    s.dispatch t method path = ⟨.ok (.reply .notFound), [.noRoute method path], s⟩ := by
  rw [dispatch, RouteTable.dispatch, h]

/-! ### Every command -/

/-- What a session keeps after a command to table `n`. -/
theorem tableStep_session (s : Session) (n : Nat) (c : TableCommand) :
    (s.tableStep n (s.tableAt n) c).session =
      { s with
        recorders := s.recordersAfter n c
        tables := s.tablesAfter (s.request? n c)
        registrations := s.registrationsAfter n c
        snapshots := s.snapshotsAfter n c
        iterators := s.iteratorsAfter n c } := by
  cases c with
  | register method pattern h => exact s.register_session ⟨n, method, pattern⟩ h .done
  | route method pattern h => exact s.register_session ⟨n, method, pattern⟩ h .unchanged
  | apply name h =>
    rw [tableStep, request?, recordersAfter]
    cases s.registrations.get? name with
    | none => rfl
    | some r => exact s.register_session r h .unchanged
  | dispatch method path =>
    rw [tableStep, recordersAfter]
    cases hhit : (s.tableAt n).lookup? method path with
    | some hit => exact congrArg Step.session (dispatch_of_some hhit)
    | none => exact congrArg Step.session (dispatch_of_none hhit)
  | read name =>
    rw [tableStep]
    cases s.snapshots.get? name with
    | none => rfl
    | some rs => rfl
  | next name =>
    rw [tableStep, iteratorsAfter]
    cases s.iterators.get? name with
    | none => rfl
    | some rs => cases rs <;> rfl
  | calls name =>
    rw [tableStep]
    cases s.recorders.get? name with
    | none => rfl
    | some r => rfl
  | keep name method pattern => rfl
  | freeze => rfl
  | routes => rfl
  | snapshot name => rfl
  | iterate name => rfl
  | find method path => rfl

/-- A command that asks for a registration hands it to the table. -/
lemma tableStep_of_register {s : Session} {n m : Nat} {c : TableCommand} {e : RouteEntry Handler}
    (h : s.request? n c = some (m, .register e)) (t : RouteTable Handler) :
    ∃ a, s.tableStep n t c = s.register ⟨m, e.method, e.pattern⟩ e.handler a := by
  cases c with
  | register method pattern handler =>
    obtain ⟨rfl, rfl⟩ : n = m ∧ _ = e := by simpa [request?] using h
    exact ⟨.done, rfl⟩
  | route method pattern handler =>
    obtain ⟨rfl, rfl⟩ : n = m ∧ _ = e := by simpa [request?] using h
    exact ⟨.unchanged, rfl⟩
  | apply name handler =>
    obtain ⟨r, hr, hevent⟩ := Option.map_eq_some_iff.mp h
    obtain ⟨rfl, rfl⟩ : r.table = m ∧ _ = e := by simpa using hevent
    exact ⟨.unchanged, by rw [tableStep, hr]⟩
  | _ => simp [request?] at h

/-- A command that asks for a registration is answered as the table answers it. -/
lemma answer_of_register {s : Session} {n m : Nat} {c : TableCommand} {e : RouteEntry Handler}
    (h : s.request? n c = some (m, .register e)) (t : RouteTable Handler) :
    ∃ a, (s.tableStep n t c).answer =
      match (s.tableAt m).register e.method e.pattern e.handler with
      | .ok _ => .ok a
      | .error error => .error (.router error) := by
  obtain ⟨a, hstep⟩ := tableStep_of_register h t
  exact ⟨a, by rw [hstep, register_answer]⟩

/-- Freezing always succeeds. -/
lemma answer_of_freeze {s : Session} {n m : Nat} {c : TableCommand}
    (h : s.request? n c = some (m, .freeze)) (t : RouteTable Handler) :
    (s.tableStep n t c).answer = .ok .done := by
  cases c with
  | freeze => rfl
  | apply name handler =>
    obtain ⟨r, -, hevent⟩ := Option.map_eq_some_iff.mp h
    simp at hevent
  | _ => simp [request?] at h

/-- A command that fails leaves all tables unchanged. -/
theorem tables_of_error {s : Session} {n : Nat} {c : TableCommand} {e : SessionError}
    (h : (s.tableStep n (s.tableAt n) c).answer = .error e) :
    (s.tableStep n (s.tableAt n) c).session.tables = s.tables := by
  have hsession := s.tableStep_session n c
  rw [hsession]
  dsimp only
  cases hrequest : s.request? n c with
  | none => rfl
  | some request =>
    obtain ⟨m, ev⟩ := request
    cases ev with
    | freeze => simp [answer_of_freeze hrequest] at h
    | register entry =>
      obtain ⟨a, hanswer⟩ := answer_of_register hrequest (s.tableAt n)
      cases hregister : (s.tableAt m).register entry.method entry.pattern entry.handler with
      | ok t => simp [hanswer, hregister] at h
      | error error =>
        rw [tablesAfter, RouteTable.after, hregister]
        exact s.set_tableAt m

/-- A command is executed on the table that its name refers to. -/
lemma step_table {s : Session} {name : String} {n : Nat} (h : s.tableNames.get? name = some n)
    (c : TableCommand) : s.step (.table name c) = s.tableStep n (s.tableAt n) c := by
  rw [step, h]
  rfl

/-- Loading fails and leaves the session as it is, or it adds a loaded table under the name. -/
lemma load_cases (s : Session) (r : Registry Handler) (config : Value) (name : String) :
    (∃ e, s.load r config name = ⟨.error (.config e), [], s⟩) ∨
      ∃ c : RouteTableConfig,
        (∃ e, (r.load c).1 = .error e ∧
          s.load r config name = ⟨.error (.router e), (r.load c).2, s⟩) ∨
        ∃ t, (r.load c).1 = .ok t ∧ s.load r config name =
          ⟨.ok (.loaded t.size t.frozen), (r.load c).2, s.addTable name t⟩ := by
  unfold load
  cases RouteTableConfig.ofValue config with
  | error e => exact .inl ⟨e, rfl⟩
  | ok c =>
    refine .inr ⟨c, ?_⟩
    cases hload : r.load c with
    | mk result log =>
      cases result with
      | error e => exact .inl ⟨e, rfl, by simp [hload]⟩
      | ok t => exact .inr ⟨t, rfl, by simp [hload]⟩

/-- A command to load fails and leaves the session as it is, or it adds a loaded table. -/
lemma step_load_cases (s : Session) (registry : String) (config : Value) (name : String) :
    (∃ e log, s.step (.load registry config name) = ⟨.error e, log, s⟩) ∨
      ∃ (r : Registry Handler) (c : RouteTableConfig) (t : RouteTable Handler),
        (r.load c).1 = .ok t ∧ s.step (.load registry config name) =
          ⟨.ok (.loaded t.size t.frozen), (r.load c).2, s.addTable name t⟩ := by
  rw [step]
  cases s.registries.get? registry with
  | none => exact .inl ⟨_, [], rfl⟩
  | some r =>
    rcases s.load_cases r config name with ⟨e, he⟩ | ⟨c, ⟨e, -, he⟩ | ⟨t, ht, hloaded⟩⟩
    · exact .inl ⟨_, _, he⟩
    · exact .inl ⟨_, _, he⟩
    · exact .inr ⟨r, c, t, ht, hloaded⟩

/-- A command is executed on a table, or it leaves the recorders as they are and does nothing to the
tables but add some, which are empty or loaded. -/
theorem step_cases (s : Session) (c : Command) :
    (∃ name n d, c = .table name d ∧ s.tableNames.get? name = some n) ∨
      (∀ name d, c = .table name d → s.tableNames.get? name = none) ∧
        (s.step c).session.recorders = s.recorders ∧
        ∃ new, (s.step c).session.tables = s.tables ++ new ∧
          ∀ t ∈ new, t = ∅ ∨ ∃ (r : Registry Handler) (config : RouteTableConfig),
            (r.load config).1 = .ok t := by
  have hsame : (s.step c).session.tables = s.tables →
      ∃ new, (s.step c).session.tables = s.tables ++ new ∧
        ∀ t ∈ new, t = ∅ ∨ ∃ (r : Registry Handler) (config : RouteTableConfig),
          (r.load config).1 = .ok t :=
    fun h => ⟨[], by rw [h, List.append_nil], by simp⟩
  cases c with
  | table name d =>
    cases hname : s.tableNames.get? name with
    | some n => exact .inl ⟨name, n, d, rfl, hname⟩
    | none =>
      have hrefuse : s.step (.table name d) = s.refuse (.unknownName name) := by
        rw [step, hname]
      refine .inr ⟨?_, by rw [hrefuse]; rfl, hsame (by rw [hrefuse]; rfl)⟩
      intro name' d' h
      obtain ⟨rfl, -⟩ := Command.table.inj h
      exact hname
  | create name =>
    exact .inr ⟨by simp, rfl, [∅], rfl, fun t ht => .inl (List.mem_singleton.mp ht)⟩
  | load registry config name =>
    refine .inr ⟨by simp, ?_⟩
    rcases s.step_load_cases registry config name with ⟨e, log, he⟩ | ⟨r, c, t, ht, hloaded⟩
    · exact ⟨by rw [he], hsame (by rw [he])⟩
    · rw [hloaded]
      refine ⟨rfl, [t], rfl, fun u hu => .inr ⟨r, c, ?_⟩⟩
      rw [List.mem_singleton.mp hu, ht]
  | info registry typeUrls =>
    have hkept : (s.step (.info registry typeUrls)).session = s := by
      rw [step]
      cases s.registries.get? registry <;> rfl
    exact .inr ⟨by simp, by rw [hkept], hsame (by rw [hkept])⟩
  | factory typeUrl spec => exact .inr ⟨by simp, rfl, hsame rfl⟩
  | build name => exact .inr ⟨by simp, rfl, hsame rfl⟩
  | emptyRegistry name => exact .inr ⟨by simp, rfl, hsame rfl⟩

/-- A command is executed on the table with the number that its name refers to. -/
lemma step_of_number {s : Session} {name : String} {n : Nat} {t : RouteTable Handler}
    (hname : s.tableNames.get? name = some n) (ht : s.tables[n]? = some t) (c : TableCommand) :
    s.step (.table name c) = s.tableStep n t c := by
  have hat : s.tableAt n = t := by
    rw [tableAt, ht, Option.getD_some]
  rw [step_table hname, hat]

/-- A name that has a table refers to its number. -/
lemma exists_number {s : Session} {name : String} {t : RouteTable Handler}
    (h : s.table? name = some t) :
    ∃ n, s.tableNames.get? name = some n ∧ s.tables[n]? = some t ∧
      ∀ c, s.step (.table name c) = s.tableStep n t c := by
  obtain ⟨n, hname, ht⟩ := Option.bind_eq_some_iff.mp h
  exact ⟨n, hname, ht, step_of_number hname ht⟩

/-- A request is dispatched to the table that the name refers to. -/
lemma step_dispatch {s : Session} {name : String} {t : RouteTable Handler}
    (h : s.table? name = some t) (method path : Value) :
    s.step (.table name (.dispatch method path)) = s.dispatch t method path := by
  obtain ⟨n, -, -, hstep⟩ := exists_number h
  exact hstep (.dispatch method path)

/-- Commands to tables do not change what names refer to. -/
lemma tableNames_step {s : Session} {name : String} {n : Nat}
    (h : s.tableNames.get? name = some n) (c : TableCommand) :
    (s.step (.table name c)).session.tableNames = s.tableNames := by
  have hsession := s.tableStep_session n c
  rw [step_table h, hsession]

/-- The name of the table refers to it still. -/
lemma get?_tableNames_step {s : Session} {name : String} {n : Nat}
    (h : s.tableNames.get? name = some n) (c : TableCommand) :
    (s.step (.table name c)).session.tableNames.get? name = some n :=
  (congrArg (OrderedMap.get? · name) (tableNames_step h c)).trans h

/-! ### Runs -/

/-- The session after a run. -/
def after (s : Session) (cs : List Command) : Session :=
  ((s.run cs).getLast?.map Step.session).getD s

@[simp] lemma after_nil (s : Session) : s.after [] = s := rfl

@[simp] lemma after_cons (s : Session) (c : Command) (cs : List Command) :
    s.after (c :: cs) = (s.step c).session.after cs := by
  rw [after, after, run, List.getLast?_cons]
  cases ((s.step c).session.run cs).getLast? <;> rfl

/-- A run goes on from where it stands. -/
lemma after_append (s : Session) (cs ds : List Command) :
    s.after (cs ++ ds) = (s.after cs).after ds := by
  induction cs generalizing s with
  | nil => rfl
  | cons c cs ih => rw [List.cons_append, after_cons, after_cons, ih]

/-- After a run of commands to the table its name refers to it still. -/
lemma get?_tableNames_after {s : Session} {name : String} {n : Nat}
    (h : s.tableNames.get? name = some n) (cs : List TableCommand) :
    (s.after (cs.map (.table name))).tableNames.get? name = some n := by
  induction cs generalizing s with
  | nil => exact h
  | cons c cs ih =>
    rw [List.map_cons, after_cons]
    exact ih (get?_tableNames_step h c)

end PathRouter.Session
