import PathRouter.Proofs.Session.Emission
import PathRouter.Proofs.Session.Numbers

/-!
# The log is a faithful trace

The log of a run can be read from the tables.  A command registers routes in at most one table
(`Session.target?`).  The records of the registrations in a table, collected along a run, are those
of its routes (`Session.routes_after`): one command records what it adds (`Session.routes_step`),
whether it asks for a registration, loads the table or does neither (`Session.target?_cases`).  Only
loading that fails records registrations of which no table tells (`Session.recorded_or_failed`).

Together with what each command writes, this is `Session.trace_is_faithful`.
-/

namespace PathRouter.Session

/-! ### The routes of a table -/

/-- The number of the table in which a command registers routes: the one that it asks for, or the
new one that it loads.  A load that fails leaves no table. -/
def target? (s : Session) : Command → Option Nat
  | .load registry config name =>
    if (s.step (.load registry config name)).answer.isOk then some s.tables.length else none
  | c =>
    match s.asked? c with
    | some (n, .register _) => some n
    | _ => none

/-- A registration is asked of the table in which it is to happen. -/
lemma target?_of_register {s : Session} {c : Command} {n : Nat} {e : RouteEntry Handler}
    (h : s.asked? c = some (n, .register e)) : s.target? c = some n := by
  cases c with
  | load registry config name => simp [asked?] at h
  | _ => simp [target?, h]

/-- The records of registrations in table `n` that a command writes. -/
def recorded (s : Session) (n : Nat) (c : Command) : List LogRecord :=
  match s.target? c with
  | some m => if m = n then (s.step c).log.filter LogRecord.isRegistration else []
  | none => []

/-- The records of registrations in table `n` that a run writes. -/
def recordsOf (s : Session) (n : Nat) : List Command → List LogRecord
  | [] => []
  | c :: cs => s.recorded n c ++ (s.step c).session.recordsOf n cs

/-- There is nothing behind the last table. -/
lemma tableAt_of_length_le {s : Session} {n : Nat} (h : s.tables.length ≤ n) : s.tableAt n = ∅ := by
  rw [tableAt, List.getElem?_eq_none h, Option.getD_none]

/-- One table was replaced. -/
lemma tableAt_of_set {s s' : Session} {m : Nat} {t : RouteTable Handler}
    (h : s'.tables = s.tables.set m t) (hm : m < s.tables.length) (n : Nat) :
    s'.tableAt n = if m = n then t else s.tableAt n := by
  rw [tableAt, h, List.getElem?_set]
  by_cases hmn : m = n
  · rw [if_pos hmn, if_pos hmn, if_pos hm, Option.getD_some]
  · rw [if_neg hmn, if_neg hmn, tableAt]

/-- One table was added. -/
lemma tableAt_of_append {s s' : Session} {t : RouteTable Handler} (h : s'.tables = s.tables ++ [t])
    (n : Nat) : s'.tableAt n = if s.tables.length = n then t else s.tableAt n := by
  rw [tableAt, h]
  rcases Nat.lt_trichotomy n s.tables.length with hlt | heq | hgt
  · rw [List.getElem?_append_left hlt, if_neg (Nat.ne_of_gt hlt), tableAt]
  · rw [heq, List.getElem?_concat_length, if_pos rfl, Option.getD_some]
  · have hnew : (s.tables ++ [t])[n]? = none :=
      List.getElem?_eq_none (List.length_append.trans_le (Nat.succ_le_of_lt hgt))
    rw [hnew, if_neg (Nat.ne_of_lt hgt), tableAt_of_length_le (Nat.le_of_lt hgt), Option.getD_none]

/-- What a command does to the routes of the tables: it asks for a registration, it loads a table,
or it leaves them as they are. -/
theorem target?_cases {s : Session} (hs : s.Numbered) (c : Command) :
    (∃ n e, s.asked? c = some (n, .register e) ∧ s.target? c = some n) ∨
      (∃ (r : Registry Handler) (rc : RouteTableConfig) (t : RouteTable Handler),
        (r.load rc).1 = .ok t ∧ (s.step c).log = (r.load rc).2 ∧
          (s.step c).session.tables = s.tables ++ [t] ∧ s.target? c = some s.tables.length) ∨
      s.target? c = none ∧ ∀ n, ((s.step c).session.tableAt n).routes = (s.tableAt n).routes := by
  cases c with
  | table name d =>
    cases hname : s.tableNames.get? name with
    | none =>
      refine .inr (.inr ⟨by simp [target?, asked?, hname], fun n => ?_⟩)
      rw [step, hname]
      rfl
    | some m =>
      have hasked : s.asked? (.table name d) = s.request? m d := by
        rw [asked?, hname, Option.bind_some]
      have htables : (s.step (.table name d)).session.tables = s.tablesAfter (s.request? m d) := by
        rw [step_table hname, tableStep_session]
      cases hrequest : s.request? m d with
      | none =>
        rw [hrequest] at htables
        refine .inr (.inr ⟨by simp [target?, hasked, hrequest], fun n => ?_⟩)
        rw [tableAt, htables]
        rfl
      | some request =>
        obtain ⟨k, ev⟩ := request
        cases ev with
        | register e =>
          have hregister := hasked.trans hrequest
          exact .inl ⟨k, e, hregister, target?_of_register hregister⟩
        | freeze =>
          -- The frozen table has the routes of the open one.
          rw [hrequest] at htables
          refine .inr (.inr ⟨by simp [target?, hasked, hrequest], fun n => ?_⟩)
          rw [tableAt_of_set htables (hs.asked (hasked.trans hrequest))]
          split
          · rename_i hkn
            rw [← hkn]
            rfl
          · rfl
  | create name =>
    refine .inr (.inr ⟨rfl, fun n => ?_⟩)
    have happend : (s.step (.create name)).session.tables = s.tables ++ [∅] := rfl
    rw [tableAt_of_append happend]
    split
    · rename_i hn
      rw [tableAt_of_length_le (Nat.le_of_eq hn)]
    · rfl
  | load registry config name =>
    rcases s.step_load_cases registry config name with ⟨e, log, he⟩ | ⟨r, c, t, ht, hloaded⟩
    · refine .inr (.inr ?_)
      rw [target?, he]
      exact ⟨rfl, fun n => rfl⟩
    · refine .inr (.inl ⟨r, c, t, ht, ?_⟩)
      rw [target?, hloaded]
      exact ⟨rfl, rfl, rfl⟩
  | info registry typeUrls =>
    refine .inr (.inr ⟨rfl, fun n => ?_⟩)
    rw [step]
    cases s.registries.get? registry <;> rfl
  | factory typeUrl spec => exact .inr (.inr ⟨rfl, fun n => rfl⟩)
  | build name => exact .inr (.inr ⟨rfl, fun n => rfl⟩)
  | emptyRegistry name => exact .inr (.inr ⟨rfl, fun n => rfl⟩)

/-- One command records the registrations of the routes that it adds to a table. -/
theorem routes_step {s : Session} (hs : s.Numbered) (n : Nat) (c : Command) :
    ((s.step c).session.tableAt n).routes.map Route.record =
      (s.tableAt n).routes.map Route.record ++ s.recorded n c := by
  unfold recorded
  rcases target?_cases hs c with
    ⟨m, e, hasked, htarget⟩ | ⟨r, rc, t, ht, hlog, htables, htarget⟩ | ⟨htarget, hsame⟩
  · rw [htarget]
    dsimp only
    rcases register_cases hasked with
      ⟨a, route, -, -, hlog, htables⟩ | ⟨error, -, hlog, htables⟩
    · rw [tableAt_of_set htables (hs.asked hasked), hlog]
      split
      · rename_i hmn
        rw [← hmn, List.map_append]
        rfl
      · rw [List.append_nil]
    · rw [tableAt, htables, hlog, List.filter_nil, ite_self, List.append_nil, tableAt]
  · obtain ⟨-, hrecords⟩ := Registry.log_of_load ht
    rw [htarget]
    dsimp only
    rw [tableAt_of_append htables, hlog, hrecords, List.filter_append,
      filter_isRegistration_map_record]
    split
    · rename_i hn
      rw [tableAt_of_length_le (Nat.le_of_eq hn)]
      exact (List.append_nil _).symm
    · rw [List.append_nil]
  · rw [htarget, hsame, List.append_nil]

/-- A run records the registrations of the routes that it adds to a table. -/
theorem routes_after {s : Session} (hs : s.Numbered) (n : Nat) (cs : List Command) :
    ((s.after cs).tableAt n).routes.map Route.record =
      (s.tableAt n).routes.map Route.record ++ s.recordsOf n cs := by
  induction cs generalizing s with
  | nil => simp [recordsOf]
  | cons c cs ih => rw [after_cons, ih (hs.step c), routes_step hs, recordsOf, List.append_assoc]

/-- A registration is recorded of a table that has its route, or by loading that fails. -/
lemma recorded_or_failed {s : Session} (hs : s.Numbered) {c : Command} {record : LogRecord}
    (hrecord : record ∈ (s.step c).log) (hregistration : record.isRegistration = true) :
    (∃ n t, s.target? c = some n ∧ (s.step c).session.tables[n]? = some t ∧
        record ∈ t.routes.map Route.record) ∨
      ∃ registry config name e, c = .load registry config name ∧
        (s.step c).answer = .error e := by
  cases htarget : s.target? c with
  | some n =>
    have hmem : record ∈ s.recorded n c := by
      simp [recorded, htarget, hrecord, hregistration]
    have hroutes : record ∈ ((s.step c).session.tableAt n).routes.map Route.record := by
      rw [routes_step hs]
      exact List.mem_append_right _ hmem
    refine .inl ⟨n, (s.step c).session.tableAt n, rfl, ?_, hroutes⟩
    -- A number without a table has no routes, so there is a table.
    rw [tableAt] at hroutes ⊢
    cases htable : (s.step c).session.tables[n]? with
    | some t => rfl
    | none =>
      rw [htable] at hroutes
      simp [EmptyCollection.emptyCollection, RouteTable.empty] at hroutes
  | none =>
    have hemits := s.emits_step c
    generalize (s.step c).log = log at hrecord hemits
    cases hemits with
    | registered hasked hanswer htells =>
      rw [target?_of_register hasked] at htarget
      simp at htarget
    | missed hc hname hmisses htells =>
      rw [List.mem_singleton.mp hrecord, htells.content] at hregistration
      simp [LogRecord.isRegistration] at hregistration
    | @loads registry name config hc =>
      subst hc
      cases hanswer : (s.step (.load registry config name)).answer with
      | error e => exact .inr ⟨registry, config, name, e, rfl, rfl⟩
      | ok a =>
        rw [target?, hanswer] at htarget
        simp [Except.isOk, Except.toBool] at htarget
    | refused => simp at hrecord
    | called => simp at hrecord
    | quiet => simp at hrecord

/-- **The log is a faithful trace.**  A run writes, in order, what its commands write: one record
for each registration that succeeds and none for one that fails, one for each request that misses
and none for one whose handler is called, what the registry writes for loading, and nothing else.
Therefore a table has as many records of registrations as routes, and they are the records of its
routes in order; the only other such records are those of loads that failed.  Whatever the handlers
of a registry are, loading writes the records of the routes before the failure, or those of all
routes and then one of the table, and it fails when it stops somewhere.  A load that fails writes
what loading the routes before the failure writes, without the record of the table. -/
theorem trace_is_faithful :
    (∀ (s : Session) (cs : List Command) (logs : List LogRecord),
      s.Traces cs logs ↔ s.trace cs = logs) ∧
    (∀ cs : List Command,
      let s := (∅ : Session).after cs
      (∀ n t, s.tables[n]? = some t →
        (∅ : Session).recordsOf n cs = t.routes.map Route.record ∧
          ((∅ : Session).recordsOf n cs).length = t.size) ∧
      ∀ c, ∀ record ∈ (s.step c).log, record.isRegistration = true →
        (∃ n t, s.target? c = some n ∧ (s.step c).session.tables[n]? = some t ∧
            record ∈ t.routes.map Route.record) ∨
          ∃ registry config name e, c = .load registry config name ∧
            (s.step c).answer = .error e) ∧
    ∀ {H : Type} (r : Registry H) (c : RouteTableConfig),
      (∀ log, r.Logs c log ↔ (r.load c).2 = log) ∧
      ((∃ before, r.Stops c before) ↔ ∃ e, (r.load c).1 = .error e) ∧
      ∀ before, r.Stops c before →
        ∃ t, r.load ⟨before⟩ = (.ok t, (r.load c).2 ++ [.loaded t.size]) := by
  refine ⟨fun s cs logs => traces_iff, ?_, ?_⟩
  · intro cs s
    have hs : s.Numbered := numbered_of_run cs
    refine ⟨fun n t ht => ?_, fun c record => recorded_or_failed hs⟩
    have hroutes := routes_after numbered_empty n cs
    have hat : s.tableAt n = t := by
      rw [tableAt, ht, Option.getD_some]
    have hempty : ((∅ : Session).tableAt n).routes = [] := rfl
    rw [hat, hempty, List.map_nil, List.nil_append] at hroutes
    refine ⟨hroutes.symm, ?_⟩
    rw [← hroutes, List.length_map, RouteTable.size]
  · intro H r c
    exact ⟨fun log => Registry.logs_iff, Registry.exists_stops_iff,
      fun before => Registry.load_before_failure⟩

/-- A route is registered, and another one is not, since its pattern does not compile.  A request
is answered that there is nothing to be found by a handler, and another one because it misses.  Of
three routes in a configuration the second cannot be loaded, and then the first is loaded alone. -/
theorem trace_is_faithful_pages :
    let page : RouteConfig := ⟨"GET", "/page/:no(int)", ⟨"app.Page", []⟩⟩
    let lost : RouteConfig := ⟨"GET", "/lost", ⟨"app.Lost", []⟩⟩
    let mixed : RouteTableConfig := ⟨[page, lost, page]⟩
    let single : RouteTableConfig := ⟨[page]⟩
    let r : Registry Nat := (RegistryBuilder.empty.handler "app.Page" fun _ => .ok 1).build
    let cs : List Command := [.create "pages",
      .table "pages" (.register "GET" "/:page(string)" .sentinel),
      .table "pages" (.register "GET" "/:page(" .sentinel),
      .table "pages" (.dispatch (.text "GET") (.text "/home")),
      .table "pages" (.dispatch (.text "GET") (.text "/home/old")),
      .factory "app.Page" .echo, .build "app",
      .load "app" mixed.toValue "loaded", .load "app" single.toValue "loaded"]
    (∅ : Session).Traces cs ((∅ : Session).trace cs) ∧
    ((∅ : Session).trace cs).map LogRecord.message =
      ["registered GET /:page(string) (params: page)", "no route for GET '/home/old'",
        "registered GET /page/:no(int) (params: no)", "registered GET /page/:no(int) (params: no)",
        "loaded route table with 1 route(s)"] ∧
    ((∅ : Session).recordsOf 0 cs).length = 1 ∧ ((∅ : Session).recordsOf 1 cs).length = 1 ∧
    (∃ e, (r.load mixed).1 = .error e) ∧
    ∃ t, r.load single = (.ok t, (r.load mixed).2 ++ [.loaded t.size]) := by
  intro page lost mixed single r cs
  obtain ⟨htraces, hrun, hload⟩ := trace_is_faithful
  obtain ⟨-, hfails, hbefore⟩ := hload r mixed
  have hmessages : ((∅ : Session).trace cs).map LogRecord.message =
      ["registered GET /:page(string) (params: page)", "no route for GET '/home/old'",
        "registered GET /page/:no(int) (params: no)", "registered GET /page/:no(int) (params: no)",
        "loaded route table with 1 route(s)"] := by decide +kernel
  have hsizes : ((∅ : Session).after cs).tables.map RouteTable.size = [1, 1] := by decide +kernel
  have hlength : ∀ n, [1, 1][n]? = some 1 → ((∅ : Session).recordsOf n cs).length = 1 := by
    intro n hn
    rw [← hsizes, List.getElem?_map] at hn
    obtain ⟨t, ht, hsize⟩ := Option.map_eq_some_iff.mp hn
    rw [((hrun cs).1 n t ht).2, hsize]
  have hpage : r.CanLoad page :=
    ⟨by decide, ⟨_, 1, rfl, rfl⟩,
      ⟨"/page/:no(int)", [.literal "page", .param "no" .int]⟩, by decide +kernel⟩
  have hlost : ¬r.CanLoad lost := by
    rintro ⟨-, ⟨factory, h, hfactory, -⟩, -⟩
    have hnone : r.factories.get? lost.handler.typeUrl = none := rfl
    rw [hnone] at hfactory
    simp at hfactory
  have hstops : r.Stops mixed [page] :=
    .failed (by decide) rfl (by simpa using hpage) hlost
  exact ⟨(htraces ∅ cs _).mpr rfl, hmessages, hlength 0 rfl, hlength 1 rfl,
    hfails.mp ⟨[page], hstops⟩, hbefore [page] hstops⟩

end PathRouter.Session
