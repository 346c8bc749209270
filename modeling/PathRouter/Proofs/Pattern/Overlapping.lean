import PathRouter.Proofs.Pattern.Covering

/-!
# Patterns with a common path

Two patterns overlap segment by segment (`Pattern.overlaps`).  Here it is shown that this is the case
exactly when some path matches both (`Pattern.exists_common_path_iff`).

One direction reads a common path piece by piece: a piece that fits two segments makes them overlap.
For the other direction a common path is made from pieces that are chosen one by one.  A literal has
only one text; for two parameters the piece is a digit, which is a value of every kind
(`Segment.exists_accepts_iff_overlaps`).
-/

namespace PathRouter

namespace ParamKind

/-- A digit is a value of every kind. -/
lemma exists_accepts_all : ∃ v, ∀ k : ParamKind, k.accepts v = true := by
  refine ⟨String.ofList (List.replicate 1 '0'), fun k => accepts_replicate ?_ 0⟩
  cases k <;> decide

end ParamKind

namespace Segment

/-- Two segments accept a common text exactly when they overlap. -/
theorem exists_accepts_iff_overlaps {s t : Segment} :
    (∃ v, s.accepts v = true ∧ t.accepts v = true) ↔ s.overlaps t = true := by
  cases s with
  | literal u =>
    have hleft : (∃ v, (literal u).accepts v = true ∧ t.accepts v = true) ↔
        t.accepts u = true := by simp
    rw [hleft]
    cases t with
    | literal w => exact Iff.rfl
    | param m l => exact Iff.rfl
  | param n k =>
    cases t with
    | literal w =>
      have hright : (∃ v, (param n k).accepts v = true ∧ (literal w).accepts v = true) ↔
          (param n k).accepts w = true := by simp
      rw [hright]
      exact Iff.rfl
    | param m l =>
      obtain ⟨v, hv⟩ := ParamKind.exists_accepts_all
      exact iff_of_true ⟨v, hv k, hv l⟩ rfl

/-- Some pieces fit two lists of segments exactly when these overlap one by one. -/
theorem exists_fit_iff_pairwise_overlaps {ss ts : List Segment} :
    (∃ vs, Fit ss vs ∧ Fit ts vs) ↔ pairwise overlaps ss ts = true := by
  rw [pairwise_iff]
  constructor
  · rintro ⟨vs, hss, hts⟩
    induction hss generalizing ts with
    | nil =>
      obtain rfl := List.forall₂_nil_right_iff.mp hts
      exact .nil
    | @cons s v ss vs hs _ ih =>
      obtain ⟨t, rest, ht, hrest, rfl⟩ := List.forall₂_cons_right_iff.mp hts
      exact .cons (exists_accepts_iff_overlaps.mp ⟨v, hs, ht⟩) (ih hrest)
  · intro h
    induction h with
    | nil => exact ⟨[], fit_nil, fit_nil⟩
    | @cons s t ss ts hoverlaps _ ih =>
      obtain ⟨v, hs, ht⟩ := exists_accepts_iff_overlaps.mpr hoverlaps
      obtain ⟨vs, hss, hts⟩ := ih
      exact ⟨v :: vs, fit_cons.mpr ⟨hs, hss⟩, fit_cons.mpr ⟨ht, hts⟩⟩

end Segment

namespace Pattern

/-- Patterns overlap when they have the same number of segments, which overlap place by place. -/
lemma overlaps_iff {p q : Pattern} :
    p.overlaps q = true ↔ p.segments.length = q.segments.length ∧
      ∀ (i : Nat) (s t : Segment), p.segments[i]? = some s → q.segments[i]? = some t →
        s.overlaps t = true := by
  rw [overlaps, Segment.pairwise_iff, List.forall₂_iff_get]
  refine and_congr_right fun _ => ⟨fun h i s t hs ht => ?_, fun h i hi hi' => ?_⟩
  · obtain ⟨hi, rfl⟩ := List.getElem?_eq_some_iff.mp hs
    obtain ⟨hi', rfl⟩ := List.getElem?_eq_some_iff.mp ht
    exact h i hi hi'
  · exact h i _ _ (List.getElem?_eq_getElem hi) (List.getElem?_eq_getElem hi')

/-- **Common paths.**  Some path matches two patterns exactly when they overlap. -/
theorem exists_common_path_iff {p q : Pattern} (hp : p.IsSlashFree) :
    (∃ path, p.accepts path = true ∧ q.accepts path = true) ↔ p.overlaps q = true := by
  rw [overlaps, ← Segment.exists_fit_iff_pairwise_overlaps]
  constructor
  · rintro ⟨path, haccepts, hother⟩
    obtain ⟨-, vs, hfit, rfl⟩ := accepts_iff.mp haccepts
    exact ⟨vs, hfit, (accepts_pathOf_iff hp hfit).mp hother⟩
  · rintro ⟨vs, hfit, hother⟩
    exact ⟨pathOf vs, (accepts_pathOf_iff hp hfit).mpr hfit,
      (accepts_pathOf_iff hp hfit).mpr hother⟩

end Pattern

end PathRouter
