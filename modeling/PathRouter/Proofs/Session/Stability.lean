import PathRouter.Proofs.Session.History
import PathRouter.Proofs.Session.Tables
import PathRouter.Proofs.Table.FirstMatch

/-!
# Stable answers

Whoever has asked a table which route matches a request may rely on the answer: whatever commands
come later, the same request is answered by the same route at the same index, with the same
parameters (`Session.answers_are_stable`).  Only a request that nothing matched can get another
answer, and then from a route that was registered since, the first one that matches it.

Both parts come from two facts.  Routes are only added behind the others, so a first match stays the
first one; and a route that was not there before was put there by one command of the run.
-/

namespace PathRouter.Session

/-- A table is asked under its name. -/
lemma answer_find {s : Session} {name : String} {n : Nat} {t : RouteTable Handler}
    (hname : s.tableNames.get? name = some n) (ht : s.tables[n]? = some t) (method path : Value) :
    (s.step (.table name (.find method path))).answer = .ok (.hit (t.lookup? method path)) := by
  rw [step_of_number hname ht]
  rfl

/-- **Stable answers.**  A table of a session is followed through any further commands.  If a route
matches a request first, it has the least index among those that have the method and accept the
path, and it answers the request afterwards as well, with the same parameters.  If none matches and
one answers the request afterwards, this one was registered by a command in between, and no route
before it has the method and accepts the path. -/
theorem answers_are_stable {s : Session} {n : Nat} {t : RouteTable Handler}
    (ht : s.tables[n]? = some t) (cs : List Command) (method path : String) :
    ∃ u, (s.after cs).tables[n]? = some u ∧
      (∀ name, (s.after cs).tableNames.get? name = some n →
        ((s.after cs).step (.table name (.find (.text method) (.text path)))).answer =
          .ok (.hit (u.lookup? (.text method) (.text path)))) ∧
      (∀ hit, t.lookup? (.text method) (.text path) = some hit →
        t.IsFirst method path hit ∧ u.lookup? (.text method) (.text path) = some hit) ∧
      ∀ hit, t.lookup? (.text method) (.text path) = none →
        u.lookup? (.text method) (.text path) = some hit →
        t.size ≤ hit.index ∧ u.IsFirst method path hit ∧
          ∃ before c after, cs = before ++ c :: after ∧
            (s.after before).Registers n c hit.index hit.route := by
  have hu := tables_after ht cs
  have hgrows := t.routes_prefix_afterAll (s.history n cs)
  refine ⟨_, hu, fun name hname => answer_find hname hu _ _, ?_, ?_⟩
  · intro hit hhit
    have hfirst : t.IsFirst method path hit := RouteTable.find?_eq_some_iff_isFirst.mp hhit
    exact ⟨hfirst, RouteTable.find?_eq_some_iff_isFirst.mpr (hfirst.of_prefix hgrows)⟩
  · intro hit hnone hhit
    have hfirst := RouteTable.find?_eq_some_iff_isFirst.mp hhit
    have hnew : t.size ≤ hit.index := hfirst.size_le hgrows hnone
    exact ⟨hnew, hfirst, exists_registers ht hnew hfirst.place⟩

/-- The page of user 42 keeps its answer when the pages of all names are added and the table is
frozen.  The page of a name gets one then, and a registration that comes too late changes
nothing. -/
theorem answers_are_stable_user :
    let s := afterTable "t" [.register "GET" "/user/:id(int)" .echo]
    let cs : List Command := [.table "t" (.register "GET" "/user/:name(string)" .sentinel),
      .table "t" .freeze, .table "t" (.register "GET" "/user/:tab(string)" .echo)]
    let byId : Route Handler :=
      ⟨"GET", ⟨"/user/:id(int)", [.literal "user", .param "id" .int]⟩, .echo⟩
    let byName : Route Handler :=
      ⟨"GET", ⟨"/user/:name(string)", [.literal "user", .param "name" .string]⟩, .sentinel⟩
    (∃ ps, ((s.after cs).step (.table "t" (.find (.text "GET") (.text "/user/42")))).answer =
      .ok (.hit (some ⟨0, byId, ps⟩)) ∧ ps.entries = [("id", "42")]) ∧
    (∃ ps, ((s.after cs).step (.table "t" (.find (.text "GET") (.text "/user/ann")))).answer =
      .ok (.hit (some ⟨1, byName, ps⟩)) ∧ ps.entries = [("name", "ann")]) ∧
    ∃ before c after, cs = before ++ c :: after ∧ (s.after before).Registers 0 c 1 byName := by
  intro s cs byId byName
  have hid : Pattern.compile "/user/:id(int)" = .ok byId.pattern := by decide +kernel
  have hname : Pattern.compile "/user/:name(string)" = .ok byName.pattern := by decide +kernel
  have hbefore : s.tables[0]? = some ⟨[byId], false⟩ := by
    rw [(follows_after "t" _).tables, RouteTable.afterAll_empty]
    simp [TableCommand.events, TableCommand.eventsFrom, TableCommand.event?,
      TableCommand.isFreeze, TableCommand.registered?, TableEvent.routes, TableEvent.isFreeze,
      TableEvent.route?, RouteEntry.route?, hid, byId]
  have hlater : Follows "t" [.register "GET" "/user/:id(int)" .echo,
      .register "GET" "/user/:name(string)" .sentinel, .freeze,
      .register "GET" "/user/:tab(string)" .echo] (s.after cs) := by
    have hrun : s.after cs = afterTable "t" _ := (afterTable_append "t" _
      [.register "GET" "/user/:name(string)" .sentinel, .freeze,
        .register "GET" "/user/:tab(string)" .echo]).symm
    rw [hrun]
    exact follows_after "t" _
  have hafter : (s.after cs).tables[0]? = some ⟨[byId, byName], true⟩ := by
    rw [hlater.tables, RouteTable.afterAll_empty]
    simp [TableCommand.events, TableCommand.eventsFrom, TableCommand.event?,
      TableCommand.isFreeze, TableCommand.registered?, TableEvent.routes, TableEvent.isFreeze,
      TableEvent.route?, RouteEntry.route?, hid, hname, byId, byName]
  have hpage : byId.pattern.match? "/user/42" = some (.ofList [("id", "42")]) := by decide +kernel
  have hann : byName.pattern.match? "/user/ann" = some (.ofList [("name", "ann")]) := by
    decide +kernel
  have hnot : byId.pattern.accepts "/user/ann" = false := by decide +kernel
  have hfound : (⟨[byId], false⟩ : RouteTable Handler).lookup? (.text "GET") (.text "/user/42") =
      some ⟨0, byId, .ofList [("id", "42")]⟩ :=
    RouteTable.find?_eq_some_iff_isFirst.mpr ⟨rfl, rfl, hpage, fun j _ hj => absurd hj (by simp)⟩
  have hmissed :
      (⟨[byId], false⟩ : RouteTable Handler).lookup? (.text "GET") (.text "/user/ann") = none := by
    refine RouteTable.lookup?_eq_none_iff.mpr ?_
    rintro method path hmethod hpath r hr -
    rw [← Value.text.inj hpath, List.mem_singleton.mp hr]
    exact hnot
  have hfirst : (⟨[byId, byName], true⟩ : RouteTable Handler).lookup? (.text "GET")
      (.text "/user/ann") = some ⟨1, byName, .ofList [("name", "ann")]⟩ := by
    refine RouteTable.find?_eq_some_iff_isFirst.mpr ⟨rfl, rfl, hann, ?_⟩
    intro j r hj hr _
    obtain rfl : j = 0 := Nat.lt_one_iff.mp hj
    obtain rfl : byId = r := Option.some_inj.mp hr
    exact hnot
  obtain ⟨u, hu, hasked, hkept, -⟩ := answers_are_stable hbefore cs "GET" "/user/42"
  obtain ⟨v, hv, haskedAnn, -, hnew⟩ := answers_are_stable hbefore cs "GET" "/user/ann"
  obtain rfl := Option.some_inj.mp (hu.symm.trans hafter)
  obtain rfl := Option.some_inj.mp (hv.symm.trans hafter)
  refine ⟨⟨.ofList [("id", "42")], ?_, by decide⟩, ⟨.ofList [("name", "ann")], ?_, by decide⟩,
    (hnew _ hmissed hfirst).2.2⟩
  · rw [hasked "t" hlater.number, (hkept _ hfound).2]
  · rw [haskedAnn "t" hlater.number, hfirst]

end PathRouter.Session
