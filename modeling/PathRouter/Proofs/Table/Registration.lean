import Mathlib.Data.List.Forall2
import PathRouter.Proofs.Pattern.Compilation
import PathRouter.Table

/-!
# Registered routes

A registration that succeeds appends one route and changes nothing else
(`RouteTable.register_eq_ok_iff`).  A sequence of registrations therefore appends the routes of its
entries in order (`RouteTable.registerAll_eq_ok_iff`), and all routes of a table that was built in
this way have compiled patterns.
-/

namespace PathRouter

variable {H : Type}

/-- The route is what the entry becomes when its pattern is compiled. -/
def RouteEntry.Compiles (e : RouteEntry H) (r : Route H) : Prop :=
  r.method = e.method ∧ Pattern.compile e.pattern = .ok r.pattern ∧ r.handler = e.handler

/-- Something is related to each element of a list exactly when a whole list is related to it. -/
lemma exists_forall₂_iff {α β : Type} {related : α → β → Prop} {xs : List α} :
    (∃ ys, List.Forall₂ related xs ys) ↔ ∀ x ∈ xs, ∃ y, related x y := by
  induction xs with
  | nil => exact iff_of_true ⟨[], .nil⟩ (by simp)
  | cons x xs ih =>
    rw [List.forall_mem_cons, ← ih]
    constructor
    · rintro ⟨ys, hys⟩
      obtain ⟨y, rest, hy, hrest, -⟩ := List.forall₂_cons_left_iff.mp hys
      exact ⟨⟨y, hy⟩, rest, hrest⟩
    · rintro ⟨⟨y, hy⟩, rest, hrest⟩
      exact ⟨y :: rest, .cons hy hrest⟩

/-- An entry becomes one route only. -/
lemma RouteEntry.rightUnique_compiles :
    Relator.RightUnique (RouteEntry.Compiles : RouteEntry H → Route H → Prop) := by
  rintro e r s ⟨hmethod, hpattern, hhandler⟩ ⟨hmethod', hpattern', hhandler'⟩
  rw [Route.mk.injEq]
  exact ⟨hmethod.trans hmethod'.symm, Except.ok.inj (hpattern.symm.trans hpattern'),
    hhandler.trans hhandler'.symm⟩

/-- An entry becomes a route when its pattern compiles. -/
lemma RouteEntry.exists_compiles_iff {e : RouteEntry H} :
    (∃ r, e.Compiles r) ↔ ∃ p, Pattern.compile e.pattern = .ok p :=
  ⟨fun ⟨r, _, hp, _⟩ => ⟨r.pattern, hp⟩, fun ⟨p, hp⟩ => ⟨⟨e.method, p, e.handler⟩, rfl, hp, rfl⟩⟩

namespace RouteTable

/-- A successful registration appends the compiled route. -/
theorem register_eq_ok_iff {t t' : RouteTable H} (e : RouteEntry H) :
    t.register e.method e.pattern e.handler = .ok t' ↔
      t.frozen = false ∧ ∃ r, e.Compiles r ∧ t' = { t with routes := t.routes ++ [r] } := by
  unfold register
  cases hf : t.frozen with
  | true => simp
  | false =>
    rw [if_neg Bool.false_ne_true]
    cases hc : Pattern.compile e.pattern with
    | error error => simp [RouteEntry.Compiles, hc]
    | ok p =>
      dsimp only
      rw [Except.ok.injEq]
      constructor
      · rintro rfl
        exact ⟨rfl, ⟨e.method, p, e.handler⟩, ⟨rfl, hc, rfl⟩, rfl⟩
      · rintro ⟨-, ⟨method, q, handler⟩, ⟨rfl, hq, rfl⟩, rfl⟩
        have hpq : p = q := Except.ok.inj (hc.symm.trans hq)
        rw [hpq]

/-- Successful registrations append the compiled routes in order. -/
theorem registerAll_eq_ok_iff {t t' : RouteTable H} (ht : t.frozen = false)
    {es : List (RouteEntry H)} :
    t.registerAll es = .ok t' ↔
      ∃ rs, List.Forall₂ RouteEntry.Compiles es rs ∧ t' = { t with routes := t.routes ++ rs } := by
  induction es generalizing t with
  | nil => simp [registerAll, eq_comm]
  | cons e es ih =>
    have hopen : ∀ r, ({ t with routes := t.routes ++ [r] } : RouteTable H).frozen = false :=
      fun _ => ht
    rw [registerAll]
    constructor
    · intro h
      split at h
      · simp at h
      · rename_i t₁ hstep
        obtain ⟨-, r, hr, rfl⟩ := (register_eq_ok_iff e).mp hstep
        obtain ⟨rs, hrs, rfl⟩ := (ih (hopen r)).mp h
        exact ⟨r :: rs, .cons hr hrs, by simp⟩
    · rintro ⟨rs, hrs, rfl⟩
      obtain ⟨r, rest, hr, hrest, rfl⟩ := List.forall₂_cons_left_iff.mp hrs
      rw [(register_eq_ok_iff e).mpr ⟨ht, r, hr, rfl⟩]
      exact (ih (hopen r)).mpr ⟨rest, hrest, by simp⟩

/-- Registrations succeed when all patterns compile. -/
theorem exists_registerAll_iff {t : RouteTable H} (ht : t.frozen = false)
    {es : List (RouteEntry H)} :
    (∃ t', t.registerAll es = .ok t') ↔ ∀ e ∈ es, ∃ p, Pattern.compile e.pattern = .ok p := by
  simp only [← RouteEntry.exists_compiles_iff, ← exists_forall₂_iff]
  constructor
  · rintro ⟨t', h⟩
    obtain ⟨rs, hrs, -⟩ := (registerAll_eq_ok_iff ht).mp h
    exact ⟨rs, hrs⟩
  · rintro ⟨rs, hrs⟩
    exact ⟨_, (registerAll_eq_ok_iff ht).mpr ⟨rs, hrs, rfl⟩⟩

/-- A table built from nothing holds the compiled entries. -/
lemma compiles_of_registerAll {es : List (RouteEntry H)} {t : RouteTable H}
    (h : (∅ : RouteTable H).registerAll es = .ok t) :
    List.Forall₂ RouteEntry.Compiles es t.routes := by
  have hempty : (∅ : RouteTable H).frozen = false := rfl
  obtain ⟨rs, hrs, rfl⟩ := (registerAll_eq_ok_iff hempty).mp h
  exact hrs

/-- Matching needs no more of a pattern than that it was registered. -/
lemma isSlashFree_of_registerAll {es : List (RouteEntry H)} {t : RouteTable H}
    (h : (∅ : RouteTable H).registerAll es = .ok t) {r : Route H} (hr : r ∈ t.routes) :
    r.pattern.IsSlashFree := by
  obtain ⟨k, hk, rfl⟩ := List.getElem_of_mem hr
  have hcompiles := compiles_of_registerAll h
  have hk' : k < es.length := hcompiles.length_eq ▸ hk
  obtain ⟨-, hpattern, -⟩ := hcompiles.get hk' hk
  exact Pattern.isSlashFree_of_compile hpattern

end RouteTable

end PathRouter
