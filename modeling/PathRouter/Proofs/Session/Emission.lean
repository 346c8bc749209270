import PathRouter.Proofs.Registry.Records
import PathRouter.Proofs.Session.Tables
import PathRouter.Proofs.Table.FirstMatch

/-!
# What commands write to the log

`Session.Emits` says, for each kind of command, what the command writes to the log.  A registration
writes one record when it succeeds and none when it fails; a request writes one when it misses and
none when a handler is called, whatever becomes of the call; loading a configuration writes what the
registry writes; and everything else is quiet.  A command writes this and nothing else
(`Session.emits_iff`), and a run writes what its commands write, in their order
(`Session.traces_iff`).

A registration is looked into once (`Session.register_cases`): its answer, its record and what it
does to the tables belong together.
-/

namespace PathRouter.Session

/-! ### One command -/

/-- A command that asks for a registration hands it to the table. -/
lemma step_of_register {s : Session} {n : Nat} {c : Command} {e : RouteEntry Handler}
    (h : s.asked? c = some (n, .register e)) :
    ∃ a, s.step c = s.register ⟨n, e.method, e.pattern⟩ e.handler a := by
  cases c with
  | table name d =>
    obtain ⟨m, hname, hrequest⟩ := Option.bind_eq_some_iff.mp h
    obtain ⟨a, hstep⟩ := tableStep_of_register hrequest (s.tableAt m)
    exact ⟨a, by rw [step_table hname, hstep]⟩
  | _ => simp [asked?] at h

/-- A registration succeeds, and then it is recorded and the table gets the route, or it fails and
does neither. -/
theorem register_cases {s : Session} {n : Nat} {c : Command} {e : RouteEntry Handler}
    (h : s.asked? c = some (n, .register e)) :
    (∃ a route, (s.step c).answer = .ok a ∧ route.record.TellsRoute e.method e.pattern ∧
        (s.step c).log = [route.record] ∧ (s.step c).session.tables =
          s.tables.set n { s.tableAt n with routes := (s.tableAt n).routes ++ [route] }) ∨
      ∃ error, (s.step c).answer = .error error ∧ (s.step c).log = [] ∧
        (s.step c).session.tables = s.tables := by
  obtain ⟨a, hstep⟩ := step_of_register h
  rw [hstep, register_eq]
  dsimp only
  cases hregister : (s.tableAt n).register e.method e.pattern e.handler with
  | error error => exact .inr ⟨.router error, rfl, rfl, rfl⟩
  | ok t =>
    obtain ⟨-, route, hcompiles, rfl⟩ := (RouteTable.register_eq_ok_iff e).mp hregister
    have hlog := (s.tableAt n).lastRegistered_append route
    exact .inl ⟨a, route, rfl, hcompiles.tells, hlog, rfl⟩

/-- A configuration is loaded by the registry. -/
lemma step_of_load {s : Session} {registry name : String} {config : Value} {r : Registry Handler}
    {c : RouteTableConfig} (hr : s.registries.get? registry = some r)
    (hc : RouteTableConfig.ofValue config = .ok c) :
    s.step (.load registry config name) =
      match (r.load c).1 with
      | .error e => ⟨.error (.router e), (r.load c).2, s⟩
      | .ok t => ⟨.ok (.loaded t.size t.frozen), (r.load c).2, s.addTable name t⟩ := by
  rw [step, hr]
  dsimp only
  rw [load, hc]
  dsimp only
  cases r.load c with
  | mk result log => cases result <;> rfl

/-- The records of loading are those that the registry writes. -/
lemma log_of_load {s : Session} {registry : String} {config : Value} {r : Registry Handler}
    {c : RouteTableConfig} (hr : s.registries.get? registry = some r)
    (hc : RouteTableConfig.ofValue config = .ok c) (name : String) :
    (s.step (.load registry config name)).log = (r.load c).2 := by
  rw [step_of_load hr hc]
  cases (r.load c).1 <;> rfl

/-- The command asks for no registration, no table is there to dispatch a request to, and there is
no configuration to load. -/
structure Quiet (s : Session) (c : Command) : Prop where
  unasked : ∀ n e, s.asked? c ≠ some (n, .register e)
  unknown : ∀ name m p, c = .table name (.dispatch m p) → s.tableNames.get? name = none
  unread : ∀ registry config name, c = .load registry config name →
    ∀ r, s.registries.get? registry = some r → ∀ rc, RouteTableConfig.ofValue config ≠ .ok rc

/-- A command to a table that neither registers nor dispatches writes nothing. -/
lemma log_tableStep_eq_nil {s : Session} {n : Nat} {c : TableCommand}
    (hregister : ∀ m e, s.request? n c ≠ some (m, .register e))
    (hdispatch : ∀ m p, c ≠ .dispatch m p) (t : RouteTable Handler) :
    (s.tableStep n t c).log = [] := by
  cases c with
  | register method pattern h => exact absurd rfl (hregister n ⟨method, pattern, h⟩)
  | route method pattern h => exact absurd rfl (hregister n ⟨method, pattern, h⟩)
  | apply name h =>
    rw [tableStep]
    cases hr : s.registrations.get? name with
    | none => rfl
    | some r =>
      have hrequest : s.request? n (.apply name h) =
          some (r.table, .register ⟨r.method, r.pattern, h⟩) := by
        rw [request?, hr]
        rfl
      exact absurd hrequest (hregister _ _)
  | dispatch m p => exact absurd rfl (hdispatch m p)
  | read name =>
    rw [tableStep]
    cases s.snapshots.get? name <;> rfl
  | next name =>
    rw [tableStep]
    cases s.iterators.get? name with
    | none => rfl
    | some rs => cases rs <;> rfl
  | calls name =>
    rw [tableStep]
    cases s.recorders.get? name <;> rfl
  | _ => rfl

/-- A quiet command writes nothing. -/
lemma Quiet.log_eq_nil {s : Session} {c : Command} (h : s.Quiet c) : (s.step c).log = [] := by
  cases c with
  | table name d =>
    cases hname : s.tableNames.get? name with
    | none =>
      rw [step, hname]
      rfl
    | some n =>
      rw [step_table hname]
      refine log_tableStep_eq_nil (fun m e hrequest => h.unasked m e ?_) (fun m p hd => ?_) _
      · rw [asked?, hname, Option.bind_some, hrequest]
      · have hnone := h.unknown name m p (by rw [hd])
        simp [hname] at hnone
  | load registry config name =>
    rw [step]
    cases hr : s.registries.get? registry with
    | none => rfl
    | some r =>
      dsimp only
      rw [load]
      cases hc : RouteTableConfig.ofValue config with
      | error e => rfl
      | ok rc => exact absurd hc (h.unread registry config name rfl r hr rc)
  | info registry typeUrls =>
    rw [step]
    cases s.registries.get? registry <;> rfl
  | _ => rfl

/-- What a command writes. -/
inductive Emits (s : Session) (c : Command) : List LogRecord → Prop where
  /-- A route is registered. -/
  | registered {n : Nat} {e : RouteEntry Handler} (hasked : s.asked? c = some (n, .register e))
    {a : Answer} (hanswer : (s.step c).answer = .ok a) {record : LogRecord}
    (htells : record.TellsRoute e.method e.pattern) : s.Emits c [record]
  /-- A registration fails. -/
  | refused {n : Nat} {e : RouteEntry Handler} (hasked : s.asked? c = some (n, .register e))
    {error : SessionError} (hanswer : (s.step c).answer = .error error) : s.Emits c []
  /-- A table has no route for a request. -/
  | missed {name : String} {n : Nat} {m p : Value} (hc : c = .table name (.dispatch m p))
    (hname : s.tableNames.get? name = some n) (hmisses : (s.tableAt n).Misses m p)
    {record : LogRecord} (htells : record.TellsMiss m p) : s.Emits c [record]
  /-- A handler is called. -/
  | called {name method path : String} {n : Nat} {hit : Hit Handler}
    (hc : c = .table name (.dispatch (.text method) (.text path)))
    (hname : s.tableNames.get? name = some n)
    (hfirst : (s.tableAt n).IsFirst method path hit) : s.Emits c []
  /-- A configuration is loaded, or loading it fails. -/
  | loads {registry name : String} {config : Value} (hc : c = .load registry config name)
    {r : Registry Handler} (hr : s.registries.get? registry = some r) {rc : RouteTableConfig}
    (hconfig : RouteTableConfig.ofValue config = .ok rc) {log : List LogRecord}
    (hlogs : r.Logs rc log) : s.Emits c log
  /-- Nothing of this happens. -/
  | quiet (hquiet : s.Quiet c) : s.Emits c []

/-- Every command is of one of these kinds. -/
lemma emits_step (s : Session) (c : Command) : s.Emits c (s.step c).log := by
  by_cases hregister : ∃ n e, s.asked? c = some (n, .register e)
  · obtain ⟨n, e, hasked⟩ := hregister
    rcases register_cases hasked with
      ⟨a, route, hanswer, htells, hlog, -⟩ | ⟨error, hanswer, hlog, -⟩
    · rw [hlog]
      exact .registered hasked hanswer htells
    · rw [hlog]
      exact .refused hasked hanswer
  by_cases hdispatch : ∃ name m p n, c = .table name (.dispatch m p) ∧
      s.tableNames.get? name = some n
  · obtain ⟨name, m, p, n, rfl, hname⟩ := hdispatch
    rw [step_table hname, tableStep]
    rcases (s.tableAt n).misses_or_isFirst m p with
      hmisses | ⟨method, path, hit, rfl, rfl, hfirst⟩
    · rw [dispatch_of_none (RouteTable.lookup?_eq_none_iff.mpr hmisses)]
      exact .missed rfl hname hmisses ⟨rfl, rfl, rfl⟩
    · rw [dispatch_of_some (RouteTable.lookup?_eq_some_iff.mpr ⟨method, path, rfl, rfl, hfirst⟩)]
      exact .called rfl hname hfirst
  by_cases hload : ∃ registry config name r rc, c = .load registry config name ∧
      s.registries.get? registry = some r ∧ RouteTableConfig.ofValue config = .ok rc
  · obtain ⟨registry, config, name, r, rc, rfl, hr, hconfig⟩ := hload
    exact .loads rfl hr hconfig (Registry.logs_iff.mpr (log_of_load hr hconfig name).symm)
  -- Of the three kinds of commands that write it is none.
  have hquiet : s.Quiet c := by
    refine ⟨fun n e hasked => hregister ⟨n, e, hasked⟩, ?_, ?_⟩
    · intro name m p hc
      refine Option.eq_none_iff_forall_ne_some.mpr fun n hname => ?_
      exact hdispatch ⟨name, m, p, n, hc, hname⟩
    · intro registry config name hc r hr rc hconfig
      exact hload ⟨registry, config, name, r, rc, hc, hr, hconfig⟩
  rw [hquiet.log_eq_nil]
  exact .quiet hquiet

/-- A command writes what is described, and nothing else. -/
theorem emits_iff {s : Session} {c : Command} {log : List LogRecord} :
    s.Emits c log ↔ (s.step c).log = log := by
  constructor
  · intro h
    cases h with
    | registered hasked hanswer htells =>
      rcases register_cases hasked with
        ⟨a, route, -, htells', hlog, -⟩ | ⟨error, herror, -, -⟩
      · rw [hlog, htells'.unique htells]
      · rw [herror] at hanswer
        simp at hanswer
    | refused hasked hanswer =>
      rcases register_cases hasked with ⟨a, route, hok, -, -, -⟩ | ⟨error, -, hlog, -⟩
      · rw [hok] at hanswer
        simp at hanswer
      · exact hlog
    | missed hc hname hmisses htells =>
      rw [hc, step_table hname, tableStep,
        dispatch_of_none (RouteTable.lookup?_eq_none_iff.mpr hmisses), htells.content]
    | called hc hname hfirst =>
      have hhit := RouteTable.lookup?_eq_some_iff.mpr ⟨_, _, rfl, rfl, hfirst⟩
      rw [hc, step_table hname, tableStep, dispatch_of_some hhit]
    | loads hc hr hconfig hlogs =>
      rw [hc, log_of_load hr hconfig, Registry.logs_iff.mp hlogs]
    | quiet hquiet => exact hquiet.log_eq_nil
  · rintro rfl
    exact s.emits_step c

/-! ### Runs -/

/-- The records of a run in order. -/
def trace (s : Session) (cs : List Command) : List LogRecord := (s.run cs).flatMap Step.log

lemma trace_cons (s : Session) (c : Command) (cs : List Command) :
    s.trace (c :: cs) = (s.step c).log ++ (s.step c).session.trace cs := rfl

/-- What a run writes: each command writes what it does in the session in which it is executed. -/
inductive Traces : Session → List Command → List LogRecord → Prop where
  | nil {s : Session} : s.Traces [] []
  | cons {s : Session} {c : Command} {cs : List Command} {log logs : List LogRecord}
    (hlog : s.Emits c log) (hlogs : (s.step c).session.Traces cs logs) :
    s.Traces (c :: cs) (log ++ logs)

/-- A run writes what is described, and nothing else. -/
theorem traces_iff {s : Session} {cs : List Command} {logs : List LogRecord} :
    s.Traces cs logs ↔ s.trace cs = logs := by
  constructor
  · intro h
    induction h with
    | nil => rfl
    | cons hlog _ ih => rw [trace_cons, emits_iff.mp hlog, ih]
  · rintro rfl
    induction cs generalizing s with
    | nil => exact .nil
    | cons c cs ih => exact .cons (s.emits_step c) ih

end PathRouter.Session
