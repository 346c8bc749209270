import Mathlib.Data.List.Induction
import PathRouter.Proofs.Session.Steps

/-!
# The history of one table

A session with one table is followed through a run of commands to it.  What the table holds, and how
every command is answered, is said in terms of the commands of the run alone
(`Session.table_follows_history`).

The commands of a run make a history of events (`TableCommand.events`): a registration happens where
a route is registered, or where a registration that was kept before is applied to a handler, and a
kept registration is the one that was kept last under its name.  The invariant of a run
(`Session.Follows`) says that the session agrees with this history: its one table is the empty one
after the events, and its kept registrations are the last ones.  One command preserves it
(`Session.Follows.step`), so it holds after every run (`Session.follows_after`).

Snapshots and iterators hold the routes of the moment at which they were made.  Later commands do
not change a snapshot (`Session.snapshots_after`), and from an iterator they only take as many
routes as it was asked for (`Session.iterators_after`).
-/

namespace PathRouter

namespace TableCommand

/-! ### Commands and their history -/

/-- Whether the command freezes the table. -/
def isFreeze : TableCommand → Bool
  | .freeze => true
  | _ => false

/-- Whether the command makes a snapshot under this name. -/
def isSnapshot (key : String) : TableCommand → Bool
  | .snapshot name => name = key
  | _ => false

/-- Whether the command makes an iterator under this name. -/
def isIterate (key : String) : TableCommand → Bool
  | .iterate name => name = key
  | _ => false

/-- Whether the command asks the iterator with this name for its next route. -/
def isNext (key : String) : TableCommand → Bool
  | .next name => name = key
  | _ => false

/-- The method and the pattern that the command keeps under this name. -/
def kept? (key : String) : TableCommand → Option (String × String)
  | .keep name method pattern => if name = key then some (method, pattern) else none
  | _ => none

/-- The method and the pattern that were kept last under this name. -/
def lastKept? (key : String) (cs : List TableCommand) : Option (String × String) :=
  cs.reverse.findSome? (kept? key)

/-- The entry that the command registers after earlier commands: a kept registration is registered
where it is applied. -/
def registered? (earlier : List TableCommand) : TableCommand → Option (RouteEntry Handler)
  | .register method pattern h => some ⟨method, pattern, h⟩
  | .route method pattern h => some ⟨method, pattern, h⟩
  | .apply key h => (lastKept? key earlier).map fun k => ⟨k.1, k.2, h⟩
  | _ => none

/-- The event that the command is after earlier commands. -/
def event? (earlier : List TableCommand) (c : TableCommand) : Option (TableEvent Handler) :=
  if c.isFreeze then some .freeze else (c.registered? earlier).map .register

/-- The events of commands after earlier ones. -/
def eventsFrom (earlier : List TableCommand) : List TableCommand → List (TableEvent Handler)
  | [] => []
  | c :: cs => (c.event? earlier).toList ++ eventsFrom (earlier ++ [c]) cs

/-- The registrations and the freezes of a run in order. -/
def events (cs : List TableCommand) : List (TableEvent Handler) := eventsFrom [] cs

lemma lastKept?_append_singleton (key : String) (cs : List TableCommand) (c : TableCommand) :
    lastKept? key (cs ++ [c]) = (kept? key c).or (lastKept? key cs) := by
  rw [lastKept?, List.reverse_append, List.reverse_singleton, List.singleton_append,
    List.findSome?_cons, lastKept?]
  cases kept? key c <;> rfl

lemma eventsFrom_append (earlier cs ds : List TableCommand) :
    eventsFrom earlier (cs ++ ds) = eventsFrom earlier cs ++ eventsFrom (earlier ++ cs) ds := by
  induction cs generalizing earlier with
  | nil => simp [eventsFrom]
  | cons c cs ih =>
    rw [List.cons_append, eventsFrom, eventsFrom, ih, List.append_assoc]
    simp

/-- The last command adds its event. -/
lemma events_append_singleton (cs : List TableCommand) (c : TableCommand) :
    events (cs ++ [c]) = events cs ++ (c.event? cs).toList := by
  rw [events, eventsFrom_append, List.nil_append, events, eventsFrom, eventsFrom, List.append_nil]

/-- What happens later comes after what has happened. -/
lemma events_append (cs ds : List TableCommand) :
    ∃ more, events (cs ++ ds) = events cs ++ more :=
  ⟨_, eventsFrom_append [] cs ds⟩

/-- A freeze has happened when there was a command to freeze. -/
lemma any_isFreeze_events (cs : List TableCommand) :
    (events cs).any TableEvent.isFreeze = cs.any isFreeze := by
  induction cs using List.reverseRecOn with
  | nil => rfl
  | append_singleton cs c ih =>
    have hlast : (c.event? cs).toList.any TableEvent.isFreeze = c.isFreeze := by
      unfold event?
      by_cases hc : c.isFreeze = true
      · simp [hc, TableEvent.isFreeze]
      · rw [if_neg hc]
        cases c.registered? cs <;> simp [hc, TableEvent.isFreeze]
    rw [events_append_singleton, List.any_append, List.any_append, ih, hlast]
    simp

end TableCommand

namespace Session

open TableCommand

/-! ### Snapshots and iterators -/

/-- Commands that do not make a snapshot under this name do not change it. -/
lemma snapshots_step {s : Session} {name key : String} {n : Nat}
    (hname : s.tableNames.get? name = some n) {c : TableCommand} (hc : c.isSnapshot key = false) :
    (s.step (.table name c)).session.snapshots.get? key = s.snapshots.get? key := by
  have hsession := s.tableStep_session n c
  rw [step_table hname, hsession]
  dsimp only
  cases c with
  | snapshot other =>
    have hother : other ≠ key := by simpa [isSnapshot] using hc
    rw [snapshotsAfter, OrderedMap.get?_put, if_neg hother]
  | _ => rfl

/-- A snapshot stays as it is until another is made under its name. -/
theorem snapshots_after {s : Session} {name key : String} {n : Nat}
    (hname : s.tableNames.get? name = some n) {ds : List TableCommand}
    (hds : ∀ d ∈ ds, d.isSnapshot key = false) :
    (s.after (ds.map (.table name))).snapshots.get? key = s.snapshots.get? key := by
  induction ds generalizing s with
  | nil => rfl
  | cons d ds ih =>
    rw [List.forall_mem_cons] at hds
    have hname' := get?_tableNames_step hname d
    rw [List.map_cons, after_cons, ih hname' hds.2, snapshots_step hname hds.1]

/-- A command takes at most one route from an iterator, and only if it asks for it. -/
lemma iterators_step {s : Session} {name key : String} {n : Nat}
    (hname : s.tableNames.get? name = some n) {c : TableCommand} (hc : c.isIterate key = false) :
    (s.step (.table name c)).session.iterators.get? key =
      if c.isNext key then (s.iterators.get? key).map List.tail else s.iterators.get? key := by
  have hsession := s.tableStep_session n c
  rw [step_table hname, hsession]
  dsimp only
  cases c with
  | iterate other =>
    have hother : other ≠ key := by simpa [isIterate] using hc
    rw [iteratorsAfter, OrderedMap.get?_put, if_neg hother, if_neg (by simp [isNext])]
  | next other =>
    rw [iteratorsAfter]
    by_cases hother : other = key
    · subst hother
      rw [if_pos (by simp [isNext])]
      cases hit : s.iterators.get? other with
      | none => simp [hit]
      | some routes => cases routes <;> simp [hit, OrderedMap.get?_put]
    · rw [if_neg (by simpa [isNext] using hother)]
      cases s.iterators.get? other with
      | none => rfl
      | some routes => cases routes <;> simp [OrderedMap.get?_put, hother]
  | _ => rfl

/-- An iterator has given away as many routes as it was asked for. -/
theorem iterators_after {s : Session} {name key : String} {n : Nat}
    (hname : s.tableNames.get? name = some n) {ds : List TableCommand}
    (hds : ∀ d ∈ ds, d.isIterate key = false) :
    (s.after (ds.map (.table name))).iterators.get? key =
      (s.iterators.get? key).map (List.drop (ds.countP (isNext key))) := by
  induction ds generalizing s with
  | nil => cases hit : s.iterators.get? key <;> simp [hit]
  | cons d ds ih =>
    rw [List.forall_mem_cons] at hds
    have hname' := get?_tableNames_step hname d
    rw [List.map_cons, after_cons, ih hname' hds.2, iterators_step hname hds.1]
    by_cases hd : d.isNext key = true
    · rw [if_pos hd, List.countP_cons_of_pos hd, Option.map_map]
      simp [Function.comp_def, List.drop_tail]
    · rw [if_neg hd, List.countP_cons_of_neg hd]

/-- What is read from a snapshot are the routes of the moment at which it was made. -/
theorem read_after_snapshot {s : Session} {name key : String} {n : Nat}
    (hname : s.tableNames.get? name = some n) {ds : List TableCommand}
    (hds : ∀ d ∈ ds, d.isSnapshot key = false) :
    ((s.after ((.snapshot key :: ds).map (.table name))).step (.table name (.read key))).answer =
      .ok (.snapshot (s.tableAt n).routes) := by
  have hnames := get?_tableNames_after hname
  have hmade : (s.step (.table name (.snapshot key))).session.snapshots.get? key =
      some (s.tableAt n).routes := by
    have hsession := s.tableStep_session n (.snapshot key)
    rw [step_table hname, hsession]
    dsimp only
    rw [snapshotsAfter, OrderedMap.get?_put, if_pos rfl]
  have hkept := snapshots_after (hnames [.snapshot key]) hds
  rw [List.map_singleton, after_cons, after_nil, hmade] at hkept
  rw [step_table (hnames _), List.map_cons, after_cons, tableStep, hkept]
  rfl

/-- What an iterator gives are the routes of the moment at which it was made, one by one. -/
theorem next_after_iterate {s : Session} {name key : String} {n : Nat}
    (hname : s.tableNames.get? name = some n) {ds : List TableCommand}
    (hds : ∀ d ∈ ds, d.isIterate key = false) :
    ((s.after ((.iterate key :: ds).map (.table name))).step (.table name (.next key))).answer =
      .ok (.route (s.tableAt n).routes[ds.countP (isNext key)]?) := by
  have hnames := get?_tableNames_after hname
  have hmade : (s.step (.table name (.iterate key))).session.iterators.get? key =
      some (s.tableAt n).routes := by
    have hsession := s.tableStep_session n (.iterate key)
    rw [step_table hname, hsession]
    dsimp only
    rw [iteratorsAfter, OrderedMap.get?_put, if_pos rfl]
  have hleft := iterators_after (hnames [.iterate key]) hds
  rw [List.map_singleton, after_cons, after_nil, hmade, Option.map_some] at hleft
  rw [step_table (hnames _), List.map_cons, after_cons, tableStep, hleft, ← List.head?_drop]
  cases (s.tableAt n).routes.drop (ds.countP (isNext key)) <;> rfl

/-! ### The invariant of a run -/

/-- A session in which a table was created. -/
def opened (name : String) : Session := ((∅ : Session).step (.create name)).session

/-- The session after commands to its one table. -/
def afterTable (name : String) (cs : List TableCommand) : Session :=
  (opened name).after (cs.map (.table name))

lemma afterTable_append (name : String) (cs ds : List TableCommand) :
    afterTable name (cs ++ ds) = (afterTable name cs).after (ds.map (.table name)) := by
  rw [afterTable, List.map_append, after_append, ← afterTable]

/-- The session agrees with the history of its one table: the table is the empty one after the
events, and kept registrations are the last ones. -/
structure Follows (name : String) (cs : List TableCommand) (s : Session) : Prop where
  number : s.tableNames.get? name = some 0
  tables : s.tables = [(∅ : RouteTable Handler).afterAll (events cs)]
  kept : ∀ key, s.registrations.get? key = (lastKept? key cs).map fun k => ⟨0, k.1, k.2⟩

lemma follows_opened (name : String) : Follows name [] (opened name) where
  number := by
    have hnames : (opened name).tableNames = (∅ : OrderedMap String Nat).put name 0 := rfl
    rw [hnames, OrderedMap.get?_put, if_pos rfl]
  tables := rfl
  kept _ := rfl

namespace Follows

variable {name : String} {cs : List TableCommand} {s : Session}

/-- The table is the empty one after the events. -/
lemma tableAt_zero (h : Follows name cs s) :
    s.tableAt 0 = (∅ : RouteTable Handler).afterAll (events cs) := by
  rw [tableAt, h.tables]
  rfl

/-- A command asks for its event in the history. -/
lemma request?_eq (h : Follows name cs s) (c : TableCommand) :
    s.request? 0 c = (c.event? cs).map fun ev => (0, ev) := by
  cases c with
  | apply key handler =>
    rw [request?, h.kept, event?, if_neg (by simp [isFreeze]), registered?]
    cases lastKept? key cs <;> rfl
  | _ => rfl

/-- A command preserves the agreement. -/
theorem step (h : Follows name cs s) (c : TableCommand) :
    Follows name (cs ++ [c]) (s.step (.table name c)).session := by
  have hsession := s.tableStep_session 0 c
  rw [step_table h.number, hsession]
  constructor
  · exact h.number
  · have htables : s.tablesAfter (s.request? 0 c) =
        [((∅ : RouteTable Handler).afterAll (events cs)).afterAll (c.event? cs).toList] := by
      rw [h.request?_eq]
      cases c.event? cs with
      | none => exact h.tables
      | some ev =>
        rw [Option.map_some, tablesAfter, h.tableAt_zero, h.tables]
        rfl
    rw [events_append_singleton, RouteTable.afterAll_append]
    exact htables
  · intro key
    rw [lastKept?_append_singleton]
    cases c with
    | keep other method pattern =>
      have hput : s.registrationsAfter 0 (.keep other method pattern) =
          s.registrations.put other ⟨0, method, pattern⟩ := rfl
      dsimp only
      rw [hput, OrderedMap.get?_put, h.kept, kept?]
      split <;> rfl
    | _ => exact h.kept key

end Follows

/-- After every run the session agrees with the history of its table. -/
theorem follows_after (name : String) (cs : List TableCommand) :
    Follows name cs (afterTable name cs) := by
  induction cs using List.reverseRecOn with
  | nil => exact follows_opened name
  | append_singleton cs c ih =>
    rw [afterTable_append]
    exact ih.step c

/-! ### Answers -/

namespace Follows

variable {name : String} {cs : List TableCommand} {s : Session}

/-- The table holds the routes of the history, and it is frozen when it was frozen before. -/
lemma tableAt_eq (h : Follows name cs s) :
    s.tableAt 0 = ⟨TableEvent.routes (events cs), cs.any isFreeze⟩ := by
  rw [h.tableAt_zero, RouteTable.afterAll_empty, any_isFreeze_events]

lemma table?_eq (h : Follows name cs s) :
    s.table? name = some ⟨TableEvent.routes (events cs), cs.any isFreeze⟩ := by
  rw [table?, h.number, ← h.tableAt_eq, tableAt, h.tables]
  rfl

/-- A registration is answered as the table of the history answers it. -/
lemma answer_of_registered (h : Follows name cs s) {c : TableCommand} {e : RouteEntry Handler}
    (he : c.registered? cs = some e) :
    ∃ a, (s.step (.table name c)).answer =
      match (s.tableAt 0).register e.method e.pattern e.handler with
      | .ok _ => .ok a
      | .error error => .error (.router error) := by
  have hevent : c.event? cs = some (.register e) := by
    have hnot : c.isFreeze = false := by
      cases c with
      | freeze => simp [registered?] at he
      | _ => rfl
    rw [event?, hnot, he]
    rfl
  have hrequest : s.request? 0 c = some (0, .register e) := by
    rw [h.request?_eq, hevent]
    rfl
  rw [step_table h.number]
  exact answer_of_register hrequest (s.tableAt 0)

/-- After a freeze a registration is refused, whatever its pattern. -/
lemma answer_of_frozen (h : Follows name cs s) {c : TableCommand} {e : RouteEntry Handler}
    (he : c.registered? cs = some e) (hfrozen : cs.any isFreeze = true) :
    (s.step (.table name c)).answer = .error (.router (.frozen e.method e.pattern)) := by
  obtain ⟨a, hanswer⟩ := h.answer_of_registered he
  rw [hanswer, h.tableAt_eq, RouteTable.register_of_frozen hfrozen]

/-- Before a freeze the pattern decides about a registration. -/
lemma answer_of_open (h : Follows name cs s) {c : TableCommand} {e : RouteEntry Handler}
    (he : c.registered? cs = some e) (hopen : cs.any isFreeze = false) :
    ∃ a, (s.step (.table name c)).answer =
      match Pattern.compile e.pattern with
      | .ok _ => .ok a
      | .error error => .error (.router error) := by
  obtain ⟨a, hanswer⟩ := h.answer_of_registered he
  refine ⟨a, ?_⟩
  rw [hanswer, h.tableAt_eq, RouteTable.register_of_open hopen]
  cases Pattern.compile e.pattern <;> rfl

/-- A command that fails leaves the table as it is. -/
lemma table?_of_error (h : Follows name cs s) {c : TableCommand} {error : SessionError}
    (herror : (s.step (.table name c)).answer = .error error) :
    (s.step (.table name c)).session.table? name = s.table? name := by
  have hnames := tableNames_step h.number c
  rw [step_table h.number] at herror hnames ⊢
  rw [table?, table?, hnames, tables_of_error herror]

end Follows

/-- Later commands only add routes, and do not undo a freeze. -/
lemma table?_afterTable_append (name : String) (cs ds : List TableCommand) :
    ∃ t, (afterTable name (cs ++ ds)).table? name = some t ∧
      TableEvent.routes (events cs) <+: t.routes ∧ (cs.any isFreeze = true → t.frozen = true) := by
  obtain ⟨more, hmore⟩ := events_append cs ds
  refine ⟨_, (follows_after name (cs ++ ds)).table?_eq, ?_, fun hfrozen => ?_⟩
  · rw [hmore]
    exact TableEvent.routes_prefix _ _
  · exact List.any_append.trans (Bool.or_eq_true_iff.mpr (.inl hfrozen))

/-- **The history of a table.**  After any commands to a table its routes are, in order, those of the
registrations before the first freeze whose patterns compile, and it is frozen when there was a
freeze; later commands only add routes and do not undo a freeze.  A registration is refused with its
method and pattern after a freeze, fails with the fault of its pattern before it, and succeeds
otherwise.  A command that fails leaves the table as it is.  The routes that are asked for are those
of the moment; so are those of a snapshot, whenever it is read, and those that an iterator gives one
by one. -/
theorem table_follows_history (name : String) (cs : List TableCommand) :
    let s := afterTable name cs
    let routes := TableEvent.routes (events cs)
    let frozen := cs.any isFreeze
    s.table? name = some ⟨routes, frozen⟩ ∧
    (∀ ds, ∃ t, (afterTable name (cs ++ ds)).table? name = some t ∧ routes <+: t.routes ∧
      (frozen = true → t.frozen = true)) ∧
    (∀ c e, c.registered? cs = some e →
      (frozen = true →
        (s.step (.table name c)).answer = .error (.router (.frozen e.method e.pattern))) ∧
      (frozen = false → ∀ error, Pattern.compile e.pattern = .error error →
        (s.step (.table name c)).answer = .error (.router error) ∧
          ∃ segment fault, error = .invalidSegment e.pattern segment fault) ∧
      (frozen = false → ∀ p, Pattern.compile e.pattern = .ok p →
        ∃ a, (s.step (.table name c)).answer = .ok a)) ∧
    (∀ c error, (s.step (.table name c)).answer = .error error →
      (s.step (.table name c)).session.table? name = s.table? name) ∧
    (s.step (.table name .routes)).answer = .ok (.routes routes) ∧
    (∀ key ds, (∀ d ∈ ds, d.isSnapshot key = false) →
      ((afterTable name (cs ++ .snapshot key :: ds)).step (.table name (.read key))).answer =
        .ok (.snapshot routes)) ∧
    ∀ key ds, (∀ d ∈ ds, d.isIterate key = false) →
      ((afterTable name (cs ++ .iterate key :: ds)).step (.table name (.next key))).answer =
        .ok (.route routes[ds.countP (isNext key)]?) := by
  intro s routes frozen
  have hfollows : Follows name cs s := follows_after name cs
  have htable : s.tableAt 0 = ⟨routes, frozen⟩ := hfollows.tableAt_eq
  refine ⟨hfollows.table?_eq, table?_afterTable_append name cs, ?_,
    fun _ _ => hfollows.table?_of_error, ?_, ?_, ?_⟩
  · intro c e he
    refine ⟨hfollows.answer_of_frozen he, ?_, ?_⟩
    · intro hopen error herror
      obtain ⟨a, hanswer⟩ := hfollows.answer_of_open he hopen
      obtain ⟨piece, fault, -, rfl⟩ := Pattern.compile_eq_error_iff.mp herror
      rw [hanswer, herror]
      exact ⟨rfl, _, _, rfl⟩
    · intro hopen p hp
      obtain ⟨a, hanswer⟩ := hfollows.answer_of_open he hopen
      rw [hanswer, hp]
      exact ⟨a, rfl⟩
  · rw [step_table hfollows.number]
    exact congrArg (fun t => Except.ok (Answer.routes t.routes)) htable
  · intro key ds hds
    rw [afterTable_append, read_after_snapshot hfollows.number hds]
    exact congrArg (fun t => Except.ok (Answer.snapshot t.routes)) htable
  · intro key ds hds
    rw [afterTable_append, next_after_iterate hfollows.number hds]
    exact congrArg (fun t => Except.ok (Answer.route t.routes[ds.countP (isNext key)]?)) htable

/-- A kept registration is applied after a malformed one has failed.  A snapshot and an iterator
that were made then do not see what comes later. -/
theorem table_follows_history_user :
    let cs : List TableCommand := [.keep "user" "GET" "/user/:id(int)",
      .register "GET" "/:bad" .echo, .apply "user" .echo]
    let page : Route Handler :=
      ⟨"GET", ⟨"/user/:id(int)", [.literal "user", .param "id" .int]⟩, .echo⟩
    let s := afterTable "t" cs
    let s' := afterTable "t" (cs ++ [.freeze])
    s.table? "t" = some ⟨[page], false⟩ ∧ s'.table? "t" = some ⟨[page], true⟩ ∧
    (s.step (.table "t" (.register "GET" "/:bad" .echo))).answer =
      .error (.router (.invalidSegment "/:bad" ":bad" .malformed)) ∧
    (∃ a, (s.step (.table "t" (.apply "user" .sentinel))).answer = .ok a) ∧
    (s'.step (.table "t" (.register "GET" "/:bad" .echo))).answer =
      .error (.router (.frozen "GET" "/:bad")) ∧
    (s'.step (.table "t" (.register "GET" "/:bad" .echo))).session.table? "t" = s'.table? "t" ∧
    ((afterTable "t" (cs ++ .snapshot "old" :: [.apply "user" .sentinel, .freeze])).step
      (.table "t" (.read "old"))).answer = .ok (.snapshot [page]) ∧
    ((afterTable "t" (cs ++ .iterate "walk" :: [.apply "user" .sentinel, .next "walk"])).step
      (.table "t" (.next "walk"))).answer = .ok (.route none) := by
  intro cs page s s'
  have hbad : Pattern.compile "/:bad" =
      .error (.invalidSegment "/:bad" ":bad" .malformed) := by decide +kernel
  have huser : Pattern.compile "/user/:id(int)" = .ok page.pattern := by decide +kernel
  have hroutes : TableEvent.routes (events cs) = [page] := by
    have hevents : events cs =
        [.register ⟨"GET", "/:bad", .echo⟩, .register ⟨"GET", "/user/:id(int)", .echo⟩] := rfl
    rw [hevents]
    simp [TableEvent.routes, TableEvent.isFreeze, TableEvent.route?, RouteEntry.route?, hbad,
      huser, page]
  have hroutes' : TableEvent.routes (events (cs ++ [.freeze])) = [page] := by
    have hevent : events (cs ++ [.freeze]) = events cs ++ [.freeze] :=
      events_append_singleton cs .freeze
    rw [hevent, TableEvent.routes_append, hroutes]
    rfl
  obtain ⟨htable, -, hanswer, -, -, hread, hnext⟩ := table_follows_history "t" cs
  obtain ⟨htable', -, hanswer', hfails', -⟩ := table_follows_history "t" (cs ++ [.freeze])
  obtain ⟨-, hmalformed, -⟩ := hanswer (.register "GET" "/:bad" .echo) _ rfl
  obtain ⟨-, -, hcompiles⟩ := hanswer (.apply "user" .sentinel) _ rfl
  obtain ⟨hlate, -⟩ := hanswer' (.register "GET" "/:bad" .echo) _ rfl
  rw [hroutes] at htable hread hnext
  rw [hroutes'] at htable'
  exact ⟨htable, htable', (hmalformed rfl _ hbad).1, hcompiles rfl _ huser, hlate rfl,
    hfails' _ _ (hlate rfl), hread "old" _ (by decide), hnext "walk" _ (by decide)⟩

end Session

end PathRouter
