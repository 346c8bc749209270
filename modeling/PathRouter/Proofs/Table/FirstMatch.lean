import Mathlib.Tactic.Common
import PathRouter.Proofs.Pattern.Matching
import PathRouter.Table

/-!
# The first match

The answer of a table to a request is the match of the route with the least index among those that
match (`RouteTable.find?_eq_some_iff`).  `RouteTable.IsFirst` says this of a hit in terms of methods
and patterns, and `RouteTable.lookup?_eq_some_iff` and `RouteTable.lookup?_eq_none_iff` say when
there is such a hit for a request given as data, and when there is none (`RouteTable.Misses`).  A
first match stays the first one when routes are added behind the others
(`RouteTable.IsFirst.of_prefix`).
-/

namespace PathRouter

variable {H : Type}

namespace Route

/-- A route matches when both its method and its pattern do. -/
lemma match?_eq_some_iff {r : Route H} {method path : String} {params : Params} :
    r.match? method path = some params ↔
      r.method = method ∧ r.pattern.match? path = some params := by
  unfold match?
  by_cases h : r.method = method
  · simp [h]
  · simp [h]

/-- A route of the same method fails to match when its pattern does not accept the path. -/
lemma match?_eq_none_iff {r : Route H} {method path : String} :
    r.match? method path = none ↔ (r.method = method → r.pattern.accepts path = false) := by
  unfold match?
  by_cases h : r.method = method
  · simp [h, Pattern.accepts]
  · simp [h]

end Route

namespace RouteTable

/-- The first match among routes that are counted from `i`. -/
theorem firstHit?_eq_some_iff {method path : String} {i : Nat} {rs : List (Route H)} {hit : Hit H} :
    firstHit? method path i rs = some hit ↔
      ∃ k, hit.index = i + k ∧ rs[k]? = some hit.route ∧
        hit.route.match? method path = some hit.params ∧
          ∀ j s, j < k → rs[j]? = some s → s.match? method path = none := by
  induction rs generalizing i with
  | nil => simp [firstHit?]
  | cons r rs ih =>
    rw [firstHit?]
    cases hr : r.match? method path with
    | some params =>
      dsimp only
      rw [Option.some_inj]
      constructor
      · rintro rfl
        exact ⟨0, rfl, rfl, hr, fun j s hj => absurd hj (Nat.not_lt_zero j)⟩
      · rintro ⟨k, hindex, hk, hmatch, hearlier⟩
        cases k with
        | zero =>
          obtain ⟨index, route, captured⟩ := hit
          obtain rfl : r = route := by simpa using hk
          obtain rfl : params = captured := Option.some_inj.mp (hr.symm.trans hmatch)
          rw [Hit.mk.injEq]
          exact ⟨hindex.symm, rfl, rfl⟩
        | succ k =>
          have hnone := hearlier 0 r (Nat.succ_pos k) rfl
          rw [hr] at hnone
          simp at hnone
    | none =>
      dsimp only
      rw [ih]
      constructor
      · rintro ⟨k, hindex, hk, hmatch, hearlier⟩
        refine ⟨k + 1, by omega, by simpa using hk, hmatch, fun j s hj hs => ?_⟩
        cases j with
        | zero =>
          obtain rfl : r = s := by simpa using hs
          exact hr
        | succ j => exact hearlier j s (by omega) (by simpa using hs)
      · rintro ⟨k, hindex, hk, hmatch, hearlier⟩
        cases k with
        | zero =>
          obtain rfl : r = hit.route := by simpa using hk
          rw [hr] at hmatch
          simp at hmatch
        | succ k =>
          refine ⟨k, by omega, by simpa using hk, hmatch, fun j s hj hs => ?_⟩
          exact hearlier (j + 1) s (by omega) (by simpa using hs)

/-- The answer is the match at the least index. -/
theorem find?_eq_some_iff {t : RouteTable H} {method path : String} {hit : Hit H} :
    t.find? method path = some hit ↔
      t.routes[hit.index]? = some hit.route ∧
        hit.route.match? method path = some hit.params ∧
          ∀ j s, j < hit.index → t.routes[j]? = some s → s.match? method path = none := by
  rw [find?, firstHit?_eq_some_iff]
  simp

/-- There is no match when no route matches. -/
lemma firstHit?_eq_none_iff {method path : String} {i : Nat} {rs : List (Route H)} :
    firstHit? method path i rs = none ↔ ∀ r ∈ rs, r.match? method path = none := by
  induction rs generalizing i with
  | nil => simp [firstHit?]
  | cons r rs ih =>
    rw [firstHit?, List.forall_mem_cons]
    cases r.match? method path with
    | some params => simp
    | none => simpa using ih

/-! ### Requests -/

/-- The hit is the first match of a request: its route has the method and captures the parameters,
and no route before it has the method and accepts the path. -/
structure IsFirst (t : RouteTable H) (method path : String) (hit : Hit H) : Prop where
  place : t.routes[hit.index]? = some hit.route
  agrees : hit.route.method = method
  captures : hit.route.pattern.match? path = some hit.params
  least : ∀ j r, j < hit.index → t.routes[j]? = some r → r.method = method →
    r.pattern.accepts path = false

/-- The answer to a request is its first match. -/
lemma find?_eq_some_iff_isFirst {t : RouteTable H} {method path : String} {hit : Hit H} :
    t.find? method path = some hit ↔ t.IsFirst method path hit := by
  rw [find?_eq_some_iff, Route.match?_eq_some_iff]
  constructor
  · rintro ⟨hroute, ⟨hmethod, hparams⟩, hearlier⟩
    exact ⟨hroute, hmethod, hparams, fun j r hj hr =>
      Route.match?_eq_none_iff.mp (hearlier j r hj hr)⟩
  · rintro ⟨hroute, hmethod, hparams, hleast⟩
    exact ⟨hroute, ⟨hmethod, hparams⟩, fun j r hj hr =>
      Route.match?_eq_none_iff.mpr (hleast j r hj hr)⟩

/-- Data gets an answer when it is two texts that have a first match. -/
theorem lookup?_eq_some_iff {t : RouteTable H} {m p : Value} {hit : Hit H} :
    t.lookup? m p = some hit ↔
      ∃ method path, m = .text method ∧ p = .text path ∧ t.IsFirst method path hit := by
  unfold lookup?
  split
  · rename_i method path
    rw [find?_eq_some_iff_isFirst]
    constructor
    · intro hfirst
      exact ⟨method, path, rfl, rfl, hfirst⟩
    · rintro ⟨method', path', hmethod, hpath, hfirst⟩
      rw [Value.text.inj hmethod, Value.text.inj hpath]
      exact hfirst
  · rename_i hother
    constructor
    · intro h
      simp at h
    · rintro ⟨method, path, rfl, rfl, -⟩
      exact absurd rfl (hother method path rfl)

/-- A request given as data misses: it is not two texts, or no route of the method accepts the
path. -/
def Misses (t : RouteTable H) (m p : Value) : Prop :=
  ∀ method path, m = .text method → p = .text path →
    ∀ r ∈ t.routes, r.method = method → r.pattern.accepts path = false

/-- Data gets no answer when it misses. -/
theorem lookup?_eq_none_iff {t : RouteTable H} {m p : Value} :
    t.lookup? m p = none ↔ t.Misses m p := by
  unfold lookup? Misses
  split
  · rename_i method path
    simp only [find?, firstHit?_eq_none_iff, Route.match?_eq_none_iff, Value.text.injEq]
    constructor
    · rintro h _ _ rfl rfl
      exact h
    · intro h
      exact h method path rfl rfl
  · rename_i hother
    refine iff_of_true rfl ?_
    rintro method path rfl rfl
    exact absurd rfl (hother method path rfl)

/-- A request has a first match, or it misses. -/
lemma misses_or_isFirst (t : RouteTable H) (m p : Value) :
    t.Misses m p ∨
      ∃ method path hit, m = .text method ∧ p = .text path ∧ t.IsFirst method path hit := by
  cases h : t.lookup? m p with
  | none => exact .inl (lookup?_eq_none_iff.mp h)
  | some hit =>
    obtain ⟨method, path, hm, hp, hfirst⟩ := lookup?_eq_some_iff.mp h
    exact .inr ⟨method, path, hit, hm, hp, hfirst⟩

/-- A request is handed to the handler of its first match. -/
lemma IsFirst.dispatch_eq {α : Type} {t : RouteTable H} {method path : String} {hit : Hit H}
    (h : t.IsFirst method path hit) (invoke : H → Params → α) (missed : α) :
    t.dispatch invoke missed (.text method) (.text path) =
      invoke hit.route.handler hit.params := by
  rw [dispatch, lookup?, find?_eq_some_iff_isFirst.mpr h]

/-- A request that misses is handed to nobody. -/
lemma Misses.dispatch_eq {α : Type} {t : RouteTable H} {m p : Value} (h : t.Misses m p)
    (invoke : H → Params → α) (missed : α) : t.dispatch invoke missed m p = missed := by
  rw [dispatch, lookup?_eq_none_iff.mpr h]

/-- A first match stays the first one when routes are added behind the others. -/
theorem IsFirst.of_prefix {t u : RouteTable H} {method path : String} {hit : Hit H}
    (h : t.IsFirst method path hit) (hgrows : t.routes <+: u.routes) :
    u.IsFirst method path hit := by
  obtain ⟨more, hmore⟩ := hgrows
  have hindex : hit.index < t.routes.length := (List.getElem?_eq_some_iff.mp h.place).1
  have hsame : ∀ j, j ≤ hit.index → u.routes[j]? = t.routes[j]? := by
    intro j hj
    rw [← hmore]
    exact List.getElem?_append_left (Nat.lt_of_le_of_lt hj hindex)
  refine ⟨?_, h.agrees, h.captures, ?_⟩
  · rw [hsame _ (Nat.le_refl _)]
    exact h.place
  · intro j r hj hr
    rw [hsame j (Nat.le_of_lt hj)] at hr
    exact h.least j r hj hr

/-- A first match among routes that were added is not among those that were there before. -/
lemma IsFirst.size_le {t u : RouteTable H} {method path : String} {hit : Hit H}
    (h : u.IsFirst method path hit) (hgrows : t.routes <+: u.routes)
    (hnone : t.lookup? (.text method) (.text path) = none) : t.size ≤ hit.index := by
  by_contra hlt
  have hindex : hit.index < t.routes.length := Nat.not_le.mp hlt
  obtain ⟨more, hmore⟩ := hgrows
  have hroute : t.routes[hit.index]? = some hit.route := by
    rw [← h.place, ← hmore]
    exact (List.getElem?_append_left hindex).symm
  have hmem : hit.route ∈ t.routes := List.mem_of_getElem? hroute
  have hreject := lookup?_eq_none_iff.mp hnone method path rfl rfl hit.route hmem h.agrees
  rw [Pattern.accepts, h.captures] at hreject
  exact absurd hreject (by simp)

end RouteTable

end PathRouter
