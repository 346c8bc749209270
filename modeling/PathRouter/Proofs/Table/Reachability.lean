import PathRouter.Proofs.Pattern.Covering
import PathRouter.Proofs.Table.FirstMatch
import PathRouter.Proofs.Table.Registration

/-!
# Routes that are never reached

A route is reachable when some request is answered by it and not by an earlier route.  In a table
built by registrations, a route is unreachable only if a single earlier route of its method covers
its pattern (`RouteTable.reachable_iff_not_covered`): several routes that do not cover it one by one
do not hide it together.
-/

namespace PathRouter.RouteTable

variable {H : Type}

/-- The patterns of a method among the routes before index `k`. -/
def earlierPatterns (t : RouteTable H) (k : Nat) (method : String) : List Pattern :=
  ((t.routes.take k).filter fun s => s.method = method).map Route.pattern

/-- An earlier pattern is that of an earlier route. -/
lemma mem_earlierPatterns {t : RouteTable H} {k : Nat} {method : String} {p : Pattern} :
    p ∈ t.earlierPatterns k method ↔
      ∃ j s, j < k ∧ t.routes[j]? = some s ∧ s.method = method ∧ s.pattern = p := by
  unfold earlierPatterns
  rw [List.mem_map]
  constructor
  · rintro ⟨s, hs, rfl⟩
    rw [List.mem_filter, decide_eq_true_iff] at hs
    obtain ⟨j, hj⟩ := List.mem_iff_getElem?.mp hs.1
    rw [List.getElem?_take] at hj
    split at hj
    · rename_i hjk
      exact ⟨j, s, hjk, hj, hs.2, rfl⟩
    · simp at hj
  · rintro ⟨j, s, hjk, hj, hmethod, rfl⟩
    refine ⟨s, List.mem_filter.mpr ⟨?_, decide_eq_true hmethod⟩, rfl⟩
    refine List.mem_iff_getElem?.mpr ⟨j, ?_⟩
    rw [List.getElem?_take, if_pos hjk, hj]

/-- A route is reached by the paths that escape the earlier patterns of its method. -/
lemma find?_method_eq_some_iff {t : RouteTable H} {k : Nat} {r : Route H}
    (hk : t.routes[k]? = some r) {path : String} {params : Params} :
    t.find? r.method path = some ⟨k, r, params⟩ ↔
      r.pattern.match? path = some params ∧
        ∀ p ∈ t.earlierPatterns k r.method, p.accepts path = false := by
  rw [find?_eq_some_iff, Route.match?_eq_some_iff]
  constructor
  · rintro ⟨-, ⟨-, hmatch⟩, hearlier⟩
    refine ⟨hmatch, fun p hp => ?_⟩
    obtain ⟨j, s, hjk, hj, hmethod, rfl⟩ := mem_earlierPatterns.mp hp
    exact Route.match?_eq_none_iff.mp (hearlier j s hjk hj) hmethod
  · rintro ⟨hmatch, hescape⟩
    refine ⟨hk, ⟨rfl, hmatch⟩, fun j s hjk hj => Route.match?_eq_none_iff.mpr fun hmethod => ?_⟩
    exact hescape s.pattern (mem_earlierPatterns.mpr ⟨j, s, hjk, hj, hmethod, rfl⟩)

/-- **Dead routes.**  In a table built by registrations, some path is answered by the route at index
`k` exactly when no single earlier route of the same method covers it. -/
theorem reachable_iff_not_covered {es : List (RouteEntry H)} {t : RouteTable H}
    (h : (∅ : RouteTable H).registerAll es = .ok t) {k : Nat} {r : Route H}
    (hk : t.routes[k]? = some r) :
    (∃ path params, t.lookup? (.text r.method) (.text path) = some ⟨k, r, params⟩) ↔
      ¬∃ j s, j < k ∧ t.routes[j]? = some s ∧ s.method = r.method ∧
        s.pattern.covers r.pattern = true := by
  have hr : r.pattern.IsSlashFree := isSlashFree_of_registerAll h (List.mem_of_getElem? hk)
  have hreached : (∃ path params, t.lookup? (.text r.method) (.text path) = some ⟨k, r, params⟩) ↔
      ∃ path, r.pattern.accepts path = true ∧
        ∀ p ∈ t.earlierPatterns k r.method, p.accepts path = false := by
    refine exists_congr fun path => ?_
    simp only [lookup?, find?_method_eq_some_iff hk, exists_and_right, Pattern.accepts,
      Option.isSome_iff_exists]
  rw [hreached, Pattern.exists_escape_iff hr]
  constructor
  · rintro hnone ⟨j, s, hjk, hj, hmethod, hcovers⟩
    have hfalse := hnone s.pattern (mem_earlierPatterns.mpr ⟨j, s, hjk, hj, hmethod, rfl⟩)
    rw [hfalse] at hcovers
    exact Bool.false_ne_true hcovers
  · intro hnone p hp
    obtain ⟨j, s, hjk, hj, hmethod, rfl⟩ := mem_earlierPatterns.mp hp
    rw [Bool.eq_false_iff]
    intro hcovers
    exact hnone ⟨j, s, hjk, hj, hmethod, hcovers⟩

/-- A fixed page and the numbered pages together do not hide all named pages, but the named pages
hide a second route for numbered ones. -/
theorem reachable_iff_not_covered_user :
    let me : Route Nat := ⟨"GET", ⟨"/user/me", [.literal "user", .literal "me"]⟩, 0⟩
    let byId : Route Nat :=
      ⟨"GET", ⟨"/user/:id(int)", [.literal "user", .param "id" .int]⟩, 1⟩
    let byName : Route Nat :=
      ⟨"GET", ⟨"/user/:name(string)", [.literal "user", .param "name" .string]⟩, 2⟩
    let byPage : Route Nat :=
      ⟨"GET", ⟨"/user/:page(int)", [.literal "user", .param "page" .int]⟩, 3⟩
    let es : List (RouteEntry Nat) :=
      [⟨"GET", "/user/me", 0⟩, ⟨"GET", "/user/:id(int)", 1⟩, ⟨"GET", "/user/:name(string)", 2⟩,
        ⟨"GET", "/user/:page(int)", 3⟩]
    ∃ t, (∅ : RouteTable Nat).registerAll es = .ok t ∧ t.routes = [me, byId, byName, byPage] ∧
      (∃ path params, t.lookup? (.text "GET") (.text path) = some ⟨2, byName, params⟩) ∧
      ¬∃ path params, t.lookup? (.text "GET") (.text path) = some ⟨3, byPage, params⟩ := by
  intro me byId byName byPage es
  have hcompiles : List.Forall₂ RouteEntry.Compiles es [me, byId, byName, byPage] := by
    refine .cons ?_ (.cons ?_ (.cons ?_ (.cons ?_ .nil)))
    · exact ⟨rfl, by decide +kernel, rfl⟩
    · exact ⟨rfl, by decide +kernel, rfl⟩
    · exact ⟨rfl, by decide +kernel, rfl⟩
    · exact ⟨rfl, by decide +kernel, rfl⟩
  have hopen : (∅ : RouteTable Nat).frozen = false := rfl
  have hbuilt := (registerAll_eq_ok_iff hopen).mpr ⟨_, hcompiles, rfl⟩
  refine ⟨_, hbuilt, rfl, ?_, ?_⟩
  · refine (reachable_iff_not_covered hbuilt (r := byName) rfl).mpr ?_
    rintro ⟨j, s, hj, hs, -, hcovers⟩
    obtain rfl | rfl : j = 0 ∨ j = 1 := by omega
    · obtain rfl : me = s := Option.some_inj.mp hs
      exact absurd hcovers (by decide +kernel)
    · obtain rfl : byId = s := Option.some_inj.mp hs
      exact absurd hcovers (by decide +kernel)
  · have hcovered : byName.pattern.covers byPage.pattern = true := by decide +kernel
    exact fun hreached => (reachable_iff_not_covered hbuilt (r := byPage) rfl).mp hreached
      ⟨2, byName, by omega, rfl, rfl, hcovered⟩

end PathRouter.RouteTable
