import PathRouter.Proofs.Registry.Loading
import PathRouter.Proofs.Table.History

/-!
# What loading fails with

A configuration with too many routes fails for this reason alone.  Any other fails for the first of
its routes that cannot be loaded, and several things may be wrong with this one: its path is too
long, its handler type is unknown, the factory refuses the configuration, the path does not compile.
The first of these counts (`Registry.Fails`), and nothing else that is wrong with the route, and no
later route, has a part in the error (`Registry.load_fails_with_first_failure`).

A route either can be loaded or fails (`Registry.canLoad_or_fails`), and loading it does the same
(`Registry.CanLoad.loadRoute_eq_ok`, `Registry.Fails.loadRoute_eq_error`).  For a list of routes
this gives, by induction, the first one that fails (`Registry.loadRoutes_eq_error_iff`), and that
those behind it are not looked at (`Registry.loadRoutes_append_cons`).
-/

namespace PathRouter

/-! ### Names in order -/

/-- Different texts are sorted into ascending order. -/
lemma sortedTexts_pairwise_lt {ts : List String} (h : ts.Nodup) :
    (sortedTexts ts).Pairwise (· < ·) := by
  have htrans : ∀ a b c : String, decide (a ≤ b) = true → decide (b ≤ c) = true →
      decide (a ≤ c) = true := by
    intro a b c hab hbc
    exact decide_eq_true (String.le_trans (of_decide_eq_true hab) (of_decide_eq_true hbc))
  have htotal : ∀ a b : String, (decide (a ≤ b) || decide (b ≤ a)) = true := by
    intro a b
    simpa using String.le_total a b
  have hle : (sortedTexts ts).Pairwise (· ≤ ·) := by
    simpa [sortedTexts] using List.pairwise_mergeSort htrans htotal ts
  have hne : (sortedTexts ts).Pairwise (· ≠ ·) := (List.mergeSort_perm ts _).nodup_iff.mpr h
  refine (hle.and hne).imp ?_
  rintro a b ⟨hab, hdiffer⟩
  exact String.not_le.mp fun hba => hdiffer (String.le_antisymm hab hba)

namespace Registry

variable {H : Type}

/-- The names of the handler types are in ascending order. -/
lemma typeUrls_pairwise_lt (r : Registry H) : r.typeUrls.Pairwise (· < ·) :=
  sortedTexts_pairwise_lt r.factories.nodup

/-- The names are those of the handler types that there are. -/
lemma mem_typeUrls_iff {r : Registry H} {typeUrl : String} :
    typeUrl ∈ r.typeUrls ↔ r.contains typeUrl = true := by
  rw [typeUrls, sortedTexts, List.mem_mergeSort, contains, OrderedMap.mem_keys_iff]

/-! ### One route -/

/-- What is wrong with a route, where the first thing counts. -/
inductive Fails (r : Registry H) (c : RouteConfig) : RouterError → Prop where
  /-- The path is too long. -/
  | tooLong (hlong : maxPatternLength < c.path.length) :
    r.Fails c (.patternTooLong c.path.length maxPatternLength)
  /-- The path is short enough, but there is no such handler type. -/
  | unknownType (hshort : c.path.length ≤ maxPatternLength)
    (hunknown : r.factories.get? c.handler.typeUrl = none) :
    r.Fails c (.unknownType c.handler.typeUrl r.typeUrls)
  /-- There is such a handler type, but its factory refuses the configuration. -/
  | refused (hshort : c.path.length ≤ maxPatternLength) {factory : Factory H}
    (hknown : r.factories.get? c.handler.typeUrl = some factory) {source : HandlerError}
    (hrefused : factory c.handler.config = .error source) :
    r.Fails c (.invalidConfig source.message)
  /-- The handler can be made, but the path does not compile. -/
  | malformed (hshort : c.path.length ≤ maxPatternLength) {factory : Factory H}
    (hknown : r.factories.get? c.handler.typeUrl = some factory) {h : H}
    (hmade : factory c.handler.config = .ok h) {e : RouterError}
    (hcompile : Pattern.compile c.path = .error e) : r.Fails c e

/-- A route can be loaded, or something is wrong with it. -/
theorem canLoad_or_fails (r : Registry H) (c : RouteConfig) : r.CanLoad c ∨ ∃ e, r.Fails c e := by
  by_cases hlong : maxPatternLength < c.path.length
  · exact .inr ⟨_, .tooLong hlong⟩
  have hshort := Nat.not_lt.mp hlong
  cases hfactory : r.factories.get? c.handler.typeUrl with
  | none => exact .inr ⟨_, .unknownType hshort hfactory⟩
  | some factory =>
    cases hmade : factory c.handler.config with
    | error source => exact .inr ⟨_, .refused hshort hfactory hmade⟩
    | ok h =>
      cases hcompile : Pattern.compile c.path with
      | error e => exact .inr ⟨e, .malformed hshort hfactory hmade hcompile⟩
      | ok p => exact .inl ⟨hshort, ⟨factory, h, hfactory, hmade⟩, p, hcompile⟩

/-- Loading a route leaves an open table open. -/
lemma frozen_of_loadRoute {r : Registry H} {t t' : RouteTable H} {c : RouteConfig}
    (h : r.loadRoute t c = .ok t') : t'.frozen = false := by
  obtain ⟨-, e, -, hregister⟩ := loadRoute_eq_ok_iff.mp h
  obtain ⟨hopen, route, -, rfl⟩ := (RouteTable.register_eq_ok_iff e).mp hregister
  exact hopen

/-- A route with which everything is right is loaded into an open table. -/
lemma CanLoad.loadRoute_eq_ok {r : Registry H} {t : RouteTable H} {c : RouteConfig}
    (h : r.CanLoad c) (hopen : t.frozen = false) : ∃ t', r.loadRoute t c = .ok t' := by
  obtain ⟨e, he⟩ := exists_makes_iff.mpr h.handler
  obtain ⟨p, hp⟩ := h.path
  have hcompiles : e.Compiles ⟨e.method, p, e.handler⟩ := ⟨rfl, by rw [he.pattern, hp], rfl⟩
  exact ⟨_, loadRoute_eq_ok_iff.mpr ⟨h.short, e, he,
    (RouteTable.register_eq_ok_iff e).mpr ⟨hopen, _, hcompiles, rfl⟩⟩⟩

/-- A route fails with what is wrong with it. -/
lemma Fails.loadRoute_eq_error {r : Registry H} {t : RouteTable H} {c : RouteConfig}
    {e : RouterError} (h : r.Fails c e) (hopen : t.frozen = false) :
    r.loadRoute t c = .error e := by
  cases h with
  | tooLong hlong => rw [loadRoute, if_pos hlong]
  | unknownType hshort hunknown =>
    rw [loadRoute, if_neg (Nat.not_lt.mpr hshort), makeHandler, hunknown]
    rfl
  | refused hshort hknown hrefused =>
    rw [loadRoute, if_neg (Nat.not_lt.mpr hshort), makeHandler, hknown]
    dsimp only
    rw [hrefused]
  | malformed hshort hknown hmade hcompile =>
    rw [loadRoute, if_neg (Nat.not_lt.mpr hshort), makeHandler, hknown]
    dsimp only
    rw [hmade]
    dsimp only
    rw [RouteTable.register_of_open hopen, hcompile]
    rfl

/-- Only one thing counts. -/
lemma Fails.unique {r : Registry H} {c : RouteConfig} {e e' : RouterError} (h : r.Fails c e)
    (h' : r.Fails c e') : e = e' := by
  have hopen : (∅ : RouteTable H).frozen = false := rfl
  exact Except.error.inj ((h.loadRoute_eq_error hopen).symm.trans (h'.loadRoute_eq_error hopen))

/-- Something is wrong with a route when it cannot be loaded. -/
lemma exists_fails_iff {r : Registry H} {c : RouteConfig} :
    (∃ e, r.Fails c e) ↔ ¬r.CanLoad c := by
  constructor
  · rintro ⟨e, hfails⟩ hcan
    have hopen : (∅ : RouteTable H).frozen = false := rfl
    obtain ⟨t', ht'⟩ := hcan.loadRoute_eq_ok hopen
    rw [hfails.loadRoute_eq_error hopen] at ht'
    simp at ht'
  · exact (r.canLoad_or_fails c).resolve_left

/-! ### All routes -/

/-- Loading routes fails with what is wrong with the first one that cannot be loaded. -/
theorem loadRoutes_eq_error_iff {r : Registry H} {t : RouteTable H} (hopen : t.frozen = false)
    {cs : List RouteConfig} {e : RouterError} :
    (r.loadRoutes t cs).1 = .error e ↔
      ∃ before c after, cs = before ++ c :: after ∧ (∀ b ∈ before, r.CanLoad b) ∧ r.Fails c e := by
  induction cs generalizing t with
  | nil => simp [loadRoutes]
  | cons d cs ih =>
    rw [fst_loadRoutes_cons]
    rcases r.canLoad_or_fails d with hcan | ⟨e', hfails⟩
    · obtain ⟨t', ht'⟩ := hcan.loadRoute_eq_ok hopen
      rw [ht']
      refine (ih (frozen_of_loadRoute ht')).trans ?_
      constructor
      · rintro ⟨before, c, after, rfl, hbefore, hc⟩
        exact ⟨d :: before, c, after, rfl, List.forall_mem_cons.mpr ⟨hcan, hbefore⟩, hc⟩
      · rintro ⟨before, c, after, hsplit, hbefore, hc⟩
        cases before with
        | nil =>
          obtain ⟨rfl, -⟩ := List.cons.inj hsplit
          exact absurd hcan (exists_fails_iff.mp ⟨e, hc⟩)
        | cons b before =>
          obtain ⟨-, rfl⟩ := List.cons.inj hsplit
          exact ⟨before, c, after, rfl, (List.forall_mem_cons.mp hbefore).2, hc⟩
    · rw [hfails.loadRoute_eq_error hopen]
      constructor
      · intro h
        rw [← Except.error.inj h]
        exact ⟨[], d, cs, rfl, by simp, hfails⟩
      · rintro ⟨before, c, after, hsplit, hbefore, hc⟩
        cases before with
        | nil =>
          obtain ⟨rfl, -⟩ := List.cons.inj hsplit
          exact congrArg Except.error (hfails.unique hc)
        | cons b before =>
          obtain ⟨rfl, -⟩ := List.cons.inj hsplit
          exact absurd (List.forall_mem_cons.mp hbefore).1 (exists_fails_iff.mp ⟨e', hfails⟩)

/-- Nothing behind a route that cannot be loaded is looked at. -/
theorem loadRoutes_append_cons {r : Registry H} {t : RouteTable H} (hopen : t.frozen = false)
    {c : RouteConfig} (hc : ¬r.CanLoad c) (before after : List RouteConfig) :
    r.loadRoutes t (before ++ c :: after) = r.loadRoutes t (before ++ [c]) := by
  induction before generalizing t with
  | nil =>
    obtain ⟨e, hfails⟩ := exists_fails_iff.mpr hc
    rw [List.nil_append, List.nil_append, loadRoutes, loadRoutes, hfails.loadRoute_eq_error hopen]
  | cons b before ih =>
    rw [List.cons_append, List.cons_append, loadRoutes, loadRoutes]
    cases hb : r.loadRoute t b with
    | error e => rfl
    | ok t' =>
      dsimp only
      rw [ih (frozen_of_loadRoute hb)]

/-- A configuration that has not too many routes fails as its routes do. -/
lemma fst_load_eq_error_iff {r : Registry H} {c : RouteTableConfig} {e : RouterError}
    (hfew : c.routes.length ≤ maxRoutes) :
    (r.load c).1 = .error e ↔ (r.loadRoutes ∅ c.routes).1 = .error e := by
  rw [load, if_neg (Nat.not_lt.mpr hfew)]
  cases r.loadRoutes ∅ c.routes with
  | mk result log => cases result <;> simp

/-- **The first failure counts.**  Loading a configuration with too many routes fails with their
number, whatever they are.  Otherwise it fails with what is wrong with the first route that cannot
be loaded, and of the things that may be wrong with this one the first counts: the length of its
path, its handler type, for which the known types are named in order, the refusal of its factory, of
which the message is kept, and last the fault of its path.  Something is wrong with a route when it
cannot be loaded, and then the routes behind it do not matter at all. -/
theorem load_fails_with_first_failure (r : Registry H) (c : RouteTableConfig) :
    (∀ e, (r.load c).1 = .error e ↔
      maxRoutes < c.routes.length ∧ e = .tooManyRoutes c.routes.length maxRoutes ∨
      c.routes.length ≤ maxRoutes ∧ ∃ before rc after, c.routes = before ++ rc :: after ∧
        (∀ b ∈ before, r.CanLoad b) ∧ r.Fails rc e) ∧
    (∀ rc : RouteConfig, ((∃ e, r.Fails rc e) ↔ ¬r.CanLoad rc) ∧
      (∀ e e', r.Fails rc e → r.Fails rc e' → e = e') ∧
      ∀ e, Pattern.compile rc.path = .error e →
        ∃ segment fault, e = .invalidSegment rc.path segment fault) ∧
    (r.typeUrls.Pairwise (· < ·) ∧
      ∀ typeUrl, typeUrl ∈ r.typeUrls ↔ r.contains typeUrl = true) ∧
    ∀ before rc after, c.routes = before ++ rc :: after → c.routes.length ≤ maxRoutes →
      ¬r.CanLoad rc → r.load c = r.load ⟨before ++ [rc]⟩ := by
  have hopen : (∅ : RouteTable H).frozen = false := rfl
  refine ⟨?_, ?_, ⟨r.typeUrls_pairwise_lt, fun typeUrl => mem_typeUrls_iff⟩, ?_⟩
  · intro e
    rcases Nat.lt_or_ge maxRoutes c.routes.length with hmany | hfew
    · have hload : (r.load c).1 = .error (.tooManyRoutes c.routes.length maxRoutes) := by
        rw [load, if_pos hmany]
      rw [hload]
      constructor
      · intro h
        exact .inl ⟨hmany, (Except.error.inj h).symm⟩
      · rintro (⟨-, rfl⟩ | ⟨hfew, -⟩)
        · rfl
        · exact absurd hmany (Nat.not_lt.mpr hfew)
    · rw [fst_load_eq_error_iff hfew, loadRoutes_eq_error_iff hopen]
      constructor
      · intro h
        exact .inr ⟨hfew, h⟩
      · rintro (⟨hmany, -⟩ | ⟨-, h⟩)
        · exact absurd hmany (Nat.not_lt.mpr hfew)
        · exact h
  · intro rc
    refine ⟨exists_fails_iff, fun e e' h h' => h.unique h', fun e he => ?_⟩
    obtain ⟨piece, fault, -, rfl⟩ := Pattern.compile_eq_error_iff.mp he
    exact ⟨_, fault, rfl⟩
  · intro before rc after hsplit hfew hrc
    have hfew' : (before ++ [rc]).length ≤ maxRoutes := by
      rw [hsplit] at hfew
      simp at hfew ⊢
      omega
    rw [load, if_neg (Nat.not_lt.mpr hfew), load, if_neg (Nat.not_lt.mpr hfew'), hsplit,
      loadRoutes_append_cons hopen hrc]

/-- In the first case the second route is refused by its factory, with an error of the router, and
its path does not compile either; in the second its handler type is unknown as well.  A route behind
it with an unknown handler type does not matter, unless there are too many of them. -/
theorem load_fails_with_first_failure_mixed :
    let r : Registry Nat := ((RegistryBuilder.empty.handler "app.Page" fun _ => .ok 1).handler
      "app.Late" fun _ => .error (.router (.frozen "GET" "/late"))).build
    let page : RouteConfig := ⟨"GET", "/page", ⟨"app.Page", []⟩⟩
    let late : RouteConfig := ⟨"GET", "/:late(", ⟨"app.Late", []⟩⟩
    let lost : RouteConfig := ⟨"GET", "/:lost(", ⟨"app.Lost", []⟩⟩
    (r.load ⟨[page, late, lost]⟩).1 =
      .error (.invalidConfig "cannot register GET '/late': route table is frozen") ∧
    r.load ⟨[page, late, lost]⟩ = r.load ⟨[page, late]⟩ ∧
    (r.load ⟨[page, lost, late]⟩).1 = .error (.unknownType "app.Lost" ["app.Late", "app.Page"]) ∧
    (r.load ⟨List.replicate 1025 lost⟩).1 = .error (.tooManyRoutes 1025 1024) := by
  intro r page late lost
  have hpage : r.CanLoad page :=
    ⟨by decide, ⟨_, 1, rfl, rfl⟩, ⟨"/page", [.literal "page"]⟩, by decide +kernel⟩
  have hbefore : ∀ b ∈ [page], r.CanLoad b := by
    simpa using hpage
  have hmessage : (HandlerError.router (.frozen "GET" "/late")).message =
      "cannot register GET '/late': route table is frozen" := by decide +kernel
  have hrefused : late.path.length ≤ maxPatternLength := by decide
  have hlate : r.Fails late
      (.invalidConfig "cannot register GET '/late': route table is frozen") := by
    rw [← hmessage]
    exact .refused hrefused rfl rfl
  have hshort : lost.path.length ≤ maxPatternLength := by decide
  have hperm : r.typeUrls.Perm ["app.Late", "app.Page"] :=
    (List.mergeSort_perm ["app.Page", "app.Late"] _).trans (.swap "app.Late" "app.Page" [])
  have hurls : r.typeUrls = ["app.Late", "app.Page"] :=
    hperm.eq_of_pairwise (fun _ _ _ _ hab hba => absurd hba (String.lt_asymm hab))
      r.typeUrls_pairwise_lt (by decide)
  have hlost : r.Fails lost (.unknownType "app.Lost" ["app.Late", "app.Page"]) := by
    rw [← hurls]
    exact .unknownType hshort rfl
  refine ⟨?_, ?_, ?_, ?_⟩
  · obtain ⟨hload, -⟩ := load_fails_with_first_failure r ⟨[page, late, lost]⟩
    exact (hload _).mpr (.inr ⟨by decide, [page], late, [lost], rfl, hbefore, hlate⟩)
  · obtain ⟨-, -, -, hbehind⟩ := load_fails_with_first_failure r ⟨[page, late, lost]⟩
    exact hbehind [page] late [lost] rfl (by decide) (exists_fails_iff.mp ⟨_, hlate⟩)
  · obtain ⟨hload, -⟩ := load_fails_with_first_failure r ⟨[page, lost, late]⟩
    exact (hload _).mpr (.inr ⟨by decide, [page], lost, [late], rfl, hbefore, hlost⟩)
  · obtain ⟨hload, -⟩ := load_fails_with_first_failure r ⟨List.replicate 1025 lost⟩
    refine (hload _).mpr (.inl ⟨?_, ?_⟩)
    · rw [List.length_replicate]
      decide
    · rw [List.length_replicate]
      rfl

end Registry

end PathRouter
