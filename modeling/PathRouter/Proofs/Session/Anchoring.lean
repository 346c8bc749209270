import PathRouter.Proofs.Pattern.Anchoring
import PathRouter.Proofs.Registry.Loading
import PathRouter.Proofs.Session.History
import PathRouter.Proofs.Session.Tables
import PathRouter.Proofs.Table.FirstMatch

/-!
# Slashes at the ends of a request

A table does not mend the path of a request: a slash too many at an end, or none at the beginning,
and no route matches (`Session.slashes_of_paths_count`).  The root is the only path that ends with a
slash and has a match, and it matches the routes whose patterns consist of slashes.

This holds of all tables that can come about (`RouteTable.IsBuilt`), because all their patterns are
compiled (`RouteTable.IsBuilt.compiled`).  The tables of a session are among them
(`Session.isBuilt_of_mem_tables`).
-/

namespace PathRouter

variable {H : Type}

/-- A route that an entry becomes has the pattern that its source compiles to. -/
lemma RouteEntry.Compiles.source {e : RouteEntry H} {r : Route H} (h : e.Compiles r) :
    Pattern.compile r.pattern.source = .ok r.pattern := by
  have hsource : r.pattern.source = e.pattern := (Pattern.compile_eq_ok_iff.mp h.2.1).1
  rw [hsource]
  exact h.2.1

namespace RouteTable

/-! ### Tables that can come about -/

/-- The tables that are made by registering routes, freezing, and loading configurations. -/
inductive IsBuilt : RouteTable H → Prop where
  | empty : IsBuilt ∅
  | register {t u : RouteTable H} (e : RouteEntry H) (ht : IsBuilt t)
      (hu : t.register e.method e.pattern e.handler = .ok u) : IsBuilt u
  | freeze {t : RouteTable H} (ht : IsBuilt t) : IsBuilt t.freeze
  | load {r : Registry H} {c : RouteTableConfig} {t : RouteTable H} (ht : (r.load c).1 = .ok t) :
      IsBuilt t

/-- All patterns of such a table are compiled. -/
theorem IsBuilt.compiled {t : RouteTable H} (h : t.IsBuilt) :
    ∀ r ∈ t.routes, Pattern.compile r.pattern.source = .ok r.pattern := by
  induction h with
  | empty =>
    intro r hr
    exact absurd hr List.not_mem_nil
  | register e _ hu ih =>
    obtain ⟨-, r', hr', rfl⟩ := (register_eq_ok_iff e).mp hu
    intro r hr
    rcases List.mem_append.mp hr with hr | hr
    · exact ih r hr
    · rw [List.mem_singleton.mp hr]
      exact hr'.source
  | freeze _ ih => exact ih
  | load ht =>
    obtain ⟨-, -, es, u, -, hu, rfl⟩ := Registry.load_eq_ok_iff.mp ht
    intro r hr
    obtain ⟨k, hk, rfl⟩ := List.getElem_of_mem hr
    have hcompiles := compiles_of_registerAll hu
    have hentry : (es.get ⟨k, hcompiles.length_eq ▸ hk⟩).Compiles u.routes[k] := hcompiles.get _ hk
    exact hentry.source

/-- An event makes such a table into another one. -/
lemma IsBuilt.after {t : RouteTable H} (h : t.IsBuilt) (ev : TableEvent H) :
    (t.after ev).IsBuilt := by
  cases ev with
  | freeze => exact h.freeze
  | register e =>
    rw [RouteTable.after]
    cases hu : t.register e.method e.pattern e.handler with
    | ok u => exact h.register e hu
    | error error => exact h

/-- A slash too many at an end of a path, or none at its beginning, and no route matches. -/
lemma IsBuilt.lookup?_eq_none {t : RouteTable H} (h : t.IsBuilt) {path : String}
    (hroot : path ≠ "/") (hpath : ¬Pattern.IsAnchored path) (method : Value) :
    t.lookup? method (.text path) = none := by
  refine lookup?_eq_none_iff.mpr ?_
  rintro _ path' - hp r hr -
  rw [← Value.text.inj hp, Bool.eq_false_iff]
  intro haccepts
  exact hpath (Pattern.isAnchored_of_accepts (h.compiled r hr) haccepts hroot)

/-- A route matches the root when its pattern consists of slashes. -/
lemma IsBuilt.match?_root_iff {t : RouteTable H} (h : t.IsBuilt) {r : Route H} (hr : r ∈ t.routes)
    (method : String) : (r.match? method "/").isSome = true ↔
      r.method = method ∧ ∀ c ∈ r.pattern.source.toList, c = '/' := by
  rw [← Pattern.accepts_root_iff (h.compiled r hr), Pattern.accepts, Route.match?]
  by_cases hmethod : r.method = method
  · simp [hmethod]
  · simp [hmethod]

/-- A table has a match for the root when it has such a route. -/
lemma IsBuilt.lookup?_root_iff {t : RouteTable H} (h : t.IsBuilt) (method : String) :
    (t.lookup? (.text method) (.text "/")).isSome = true ↔
      ∃ r ∈ t.routes, r.method = method ∧ ∀ c ∈ r.pattern.source.toList, c = '/' := by
  rw [Option.isSome_iff_ne_none, ne_eq, lookup?_eq_none_iff]
  constructor
  · intro hsome
    by_contra hno
    refine hsome ?_
    rintro method' path hm hp r hr hmethod
    rw [← Value.text.inj hp, Bool.eq_false_iff]
    intro haccepts
    exact hno ⟨r, hr, hmethod.trans (Value.text.inj hm).symm,
      (Pattern.accepts_root_iff (h.compiled r hr)).mp haccepts⟩
  · rintro ⟨r, hr, hmethod, hslashes⟩ hnone
    have hreject := hnone method "/" rfl rfl r hr hmethod
    rw [(Pattern.accepts_root_iff (h.compiled r hr)).mpr hslashes] at hreject
    exact absurd hreject (by simp)

end RouteTable

namespace Session

/-! ### The tables of a session -/

/-- A command keeps the tables among those that can come about. -/
lemma isBuilt_step {s : Session} (h : ∀ t ∈ s.tables, t.IsBuilt) (c : Command) :
    ∀ t ∈ (s.step c).session.tables, t.IsBuilt := by
  obtain ⟨new, htables, hnew⟩ := s.tables_step c
  have hafter : ∀ t ∈ s.tablesAfter (s.asked? c), t.IsBuilt := by
    intro t ht
    cases hasked : s.asked? c with
    | none =>
      rw [hasked] at ht
      exact h t ht
    | some request =>
      obtain ⟨n, ev⟩ := request
      rw [hasked, tablesAfter] at ht
      rcases List.mem_or_eq_of_mem_set ht with ht | rfl
      · exact h t ht
      · refine RouteTable.IsBuilt.after ?_ ev
        unfold tableAt
        cases hn : s.tables[n]? with
        | none => exact .empty
        | some u => exact h u (List.mem_of_getElem? hn)
  intro t ht
  rw [htables] at ht
  rcases List.mem_append.mp ht with ht | ht
  · exact hafter t ht
  · rcases hnew t ht with rfl | ⟨r, config, hload⟩
    · exact .empty
    · exact .load hload

/-- The tables of a session are built by registering, freezing and loading. -/
theorem isBuilt_of_mem_tables (cs : List Command) :
    ∀ t ∈ ((∅ : Session).after cs).tables, t.IsBuilt := by
  have hrun : ∀ s : Session, (∀ t ∈ s.tables, t.IsBuilt) →
      ∀ t ∈ (s.after cs).tables, t.IsBuilt := by
    induction cs with
    | nil => exact fun s h => h
    | cons c cs ih =>
      intro s h
      rw [after_cons]
      exact ih _ (isBuilt_step h c)
  refine hrun ∅ ?_
  intro t ht
  exact absurd ht List.not_mem_nil

/-- **Slashes of paths count.**  In a table that was made by registering, freezing and loading, with
any patterns, a path other than the root has no match if it does not start with a slash, ends with
one or starts with two, and then no handler is called.  The root is matched by the routes of its
method whose patterns consist of slashes.  The tables of a session are such tables, and what has no
match there is answered so and changes nothing. -/
theorem slashes_of_paths_count :
    (∀ {H : Type} (t : RouteTable H), t.IsBuilt →
      (∀ (method : Value) (path : String), path ≠ "/" →
        (path.toList.head? ≠ some '/' ∨ path.toList.getLast? = some '/' ∨
          ['/', '/'] <+: path.toList) →
        t.lookup? method (.text path) = none ∧
          ∀ (α : Type) (invoke : H → Params → α) (missed : α),
            t.dispatch invoke missed method (.text path) = missed) ∧
      (∀ r ∈ t.routes, ∀ method, (r.match? method "/").isSome = true ↔
        r.method = method ∧ ∀ c ∈ r.pattern.source.toList, c = '/') ∧
      ∀ method, (t.lookup? (.text method) (.text "/")).isSome = true ↔
        ∃ r ∈ t.routes, r.method = method ∧ ∀ c ∈ r.pattern.source.toList, c = '/') ∧
    ∀ (cs : List Command) (name : String) (t : RouteTable Handler),
      ((∅ : Session).after cs).table? name = some t →
        t.IsBuilt ∧ ∀ method path : Value, t.lookup? method path = none →
          ((∅ : Session).after cs).step (.table name (.dispatch method path)) =
            ⟨.ok (.reply .notFound), [.noRoute method path], (∅ : Session).after cs⟩ := by
  constructor
  · intro H t ht
    refine ⟨?_, fun r hr method => ht.match?_root_iff hr method, ht.lookup?_root_iff⟩
    intro method path hroot hpath
    have hnot : ¬Pattern.IsAnchored path := by
      rintro ⟨hslash, hsingle, hending⟩
      rcases hpath with hstart | hend | htwo
      · exact hstart hslash
      · exact hending hend
      · exact hsingle htwo
    have hnone := ht.lookup?_eq_none hroot hnot method
    refine ⟨hnone, fun α invoke missed => ?_⟩
    rw [RouteTable.dispatch, hnone]
  · intro cs name t ht
    obtain ⟨n, -, hn, -⟩ := exists_number ht
    refine ⟨isBuilt_of_mem_tables cs t (List.mem_of_getElem? hn), fun method path hnone => ?_⟩
    rw [step_dispatch ht, dispatch_of_none hnone]

/-- Patterns with slashes at their ends are registered, and one of slashes only.  The paths have to
be right nevertheless. -/
theorem slashes_of_paths_count_user :
    let page : Route Nat :=
      ⟨"GET", ⟨"//user//:id(int)/", [.literal "user", .literal "", .param "id" .int]⟩, 1⟩
    let home : Route Nat := ⟨"GET", ⟨"///", [.literal ""]⟩, 0⟩
    let t : RouteTable Nat := ⟨[page, home], true⟩
    let cs : List Command := [.create "t", .table "t" (.register "GET" "user/" .echo)]
    t.IsBuilt ∧
    (∀ path ∈ ["", "user//42", "/user//42/", "//user//42", "//"],
      t.lookup? (.text "GET") (.text path) = none) ∧
    (t.lookup? (.text "GET") (.text "/")).isSome = true ∧
    (((∅ : Session).after cs).step
      (.table "t" (.dispatch (.text "GET") (.text "/user/")))).answer = .ok (.reply .notFound) := by
  intro page home t cs
  obtain ⟨htables, hsessions⟩ := slashes_of_paths_count
  have hpage : (∅ : RouteTable Nat).register "GET" "//user//:id(int)/" 1 = .ok ⟨[page], false⟩ :=
    (RouteTable.register_eq_ok_iff ⟨"GET", "//user//:id(int)/", 1⟩).mpr
      ⟨rfl, page, ⟨rfl, by decide +kernel, rfl⟩, rfl⟩
  have hhome : (⟨[page], false⟩ : RouteTable Nat).register "GET" "///" 0 =
      .ok ⟨[page, home], false⟩ :=
    (RouteTable.register_eq_ok_iff ⟨"GET", "///", 0⟩).mpr
      ⟨rfl, home, ⟨rfl, by decide +kernel, rfl⟩, rfl⟩
  have hopen : (⟨[page, home], false⟩ : RouteTable Nat).IsBuilt :=
    .register ⟨"GET", "///", 0⟩ (.register ⟨"GET", "//user//:id(int)/", 1⟩ .empty hpage) hhome
  have hbuilt : t.IsBuilt := hopen.freeze
  obtain ⟨hpaths, -, hroot⟩ := htables t hbuilt
  have hslashes : ∀ c ∈ "///".toList, c = '/' := by
    simp
  refine ⟨hbuilt, ?_, (hroot "GET").mpr ⟨home, by simp [t], rfl, hslashes⟩, ?_⟩
  · intro path hpath
    have hslashes : path ≠ "/" ∧ (path.toList.head? ≠ some '/' ∨ path.toList.getLast? = some '/' ∨
        ['/', '/'] <+: path.toList) := by
      revert path
      decide +kernel
    exact (hpaths (.text "GET") path hslashes.1 hslashes.2).1
  · have hrun : (∅ : Session).after cs = afterTable "t" [.register "GET" "user/" .echo] := by
      rw [after_cons]
      rfl
    have htable := (follows_after "t" [.register "GET" "user/" .echo]).table?_eq
    rw [← hrun] at htable
    obtain ⟨hmade, hanswer⟩ := hsessions cs "t" _ htable
    have hmissed := ((htables _ hmade).1 (.text "GET") "/user/" (by decide) (by decide)).1
    rw [hanswer _ _ hmissed]

end Session

end PathRouter
