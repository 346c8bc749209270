import PathRouter.Pattern.Overlap
import PathRouter.Proofs.Pattern.Matching

/-!
# Patterns that cover another

A pattern covers another segment by segment (`Pattern.covers`).  It then matches all paths of the
other (`Pattern.accepts_of_covers`).  The converse holds even for several patterns together: if none
of them covers a pattern alone, some path of that pattern escapes them all
(`Pattern.exists_escape_iff`).

The path is made by choosing a value for each segment on its own.  A literal has only one
value.  For a parameter the value repeats one character, longer than every literal of the other
patterns, and the character is a digit or a letter as the kind is `int` or `string`.  Among the
segments that do not cover the chosen one, none accepts the value
(`Segment.exists_accepts_of_only_covers`).
-/

namespace PathRouter

namespace ParamKind

/-- Every value is a value of the kind `string`. -/
lemma accepts_string {k : ParamKind} {v : String} (h : k.accepts v = true) :
    ParamKind.string.accepts v = true := by
  cases k with
  | string => exact h
  | int =>
    rw [accepts_iff] at h ⊢
    refine ⟨h.1, fun c hc => ?_⟩
    have hdigit : '0' ≤ c ∧ c ≤ '9' := h.2 c hc
    exact .inl (.inr (.inr (.inl hdigit)))

/-- A character of a kind, repeated, is a value of the kind. -/
lemma accepts_replicate {k : ParamKind} {c : Char} (h : k.Admits c) (n : Nat) :
    k.accepts (String.ofList (List.replicate (n + 1) c)) = true := by
  rw [accepts_iff, IsValue, String.toList_ofList]
  refine ⟨by simp, fun d hd => ?_⟩
  rw [List.eq_of_mem_replicate hd]
  exact h

end ParamKind

namespace Segment

/-- A relation between segments one by one. -/
lemma pairwise_iff {related : Segment → Segment → Bool} {ss ts : List Segment} :
    pairwise related ss ts = true ↔ List.Forall₂ (fun s t => related s t = true) ss ts := by
  induction ss generalizing ts with
  | nil => cases ts <;> simp [pairwise]
  | cons s ss ih =>
    cases ts with
    | nil => simp [pairwise]
    | cons t ts => rw [pairwise, Bool.and_eq_true, ih, List.forall₂_cons]

/-- A segment that covers another accepts all its texts. -/
theorem accepts_of_covers {s t : Segment} (h : s.covers t = true) {v : String}
    (hv : t.accepts v = true) : s.accepts v = true := by
  cases t with
  | literal w =>
    rw [accepts_literal.mp hv]
    cases s <;> exact h
  | param m l =>
    cases s with
    | literal u => simp [covers] at h
    | param n k =>
      rw [accepts_param] at hv ⊢
      cases k with
      | string => exact ParamKind.accepts_string hv
      | int =>
        have hl : l = .int := by simpa [covers] using h
        rwa [hl] at hv

/-- Pieces that fit some segments fit all segments that cover these one by one. -/
lemma fit_of_pairwise_covers {ss ts : List Segment} (h : pairwise covers ss ts = true)
    {vs : List String} (hfit : Fit ts vs) : Fit ss vs := by
  rw [pairwise_iff] at h
  induction h generalizing vs with
  | nil => exact hfit
  | @cons s t ss ts hcovers _ ih =>
    obtain ⟨v, rest, hv, hrest, rfl⟩ := List.forall₂_cons_left_iff.mp hfit
    exact fit_cons.mpr ⟨accepts_of_covers hcovers hv, ih hrest⟩

/-! ### A value that only covering segments accept -/

lemma exists_length_bound (ss : List Segment) : ∃ n, ∀ w, literal w ∈ ss → w.length ≤ n := by
  induction ss with
  | nil => exact ⟨0, by simp⟩
  | cons s ss ih =>
    obtain ⟨n, hn⟩ := ih
    cases s with
    | literal u =>
      refine ⟨max u.length n, fun w hw => ?_⟩
      rcases List.mem_cons.mp hw with heq | hw
      · rw [literal.inj heq]
        exact Nat.le_max_left _ _
      · exact Nat.le_trans (hn w hw) (Nat.le_max_right _ _)
    | param m k => exact ⟨n, fun w hw => hn w (by simpa using hw)⟩

/-- No literal of the list is as long as this word. -/
lemma exists_word (ss : List Segment) (c : Char) :
    ∃ n, ∀ w, literal w ∈ ss → String.ofList (List.replicate (n + 1) c) ≠ w := by
  obtain ⟨n, hn⟩ := exists_length_bound ss
  refine ⟨n, ?_⟩
  rintro w hw rfl
  have hle := hn _ hw
  rw [String.length_ofList, List.length_replicate] at hle
  omega

/-- Each segment has a text that it shares only with segments that cover it. -/
theorem exists_accepts_of_only_covers (t : Segment) (ss : List Segment) :
    ∃ v, t.accepts v = true ∧ ∀ s ∈ ss, s.accepts v = true → s.covers t = true := by
  cases t with
  | literal w =>
    refine ⟨w, accepts_literal.mpr rfl, fun s _ hs => ?_⟩
    cases s <;> exact hs
  | param m l =>
    cases l with
    | int =>
      have hdigit : ParamKind.int.Admits '0' := by decide
      obtain ⟨n, hn⟩ := exists_word ss '0'
      refine ⟨_, ParamKind.accepts_replicate hdigit n, fun s hs hv => ?_⟩
      cases s with
      | literal w => exact absurd (accepts_literal.mp hv) (hn w hs)
      | param m' k => simp [covers]
    | string =>
      have hletter : ParamKind.string.Admits 'a' := by decide
      obtain ⟨n, hn⟩ := exists_word ss 'a'
      refine ⟨_, ParamKind.accepts_replicate hletter n, fun s hs hv => ?_⟩
      cases s with
      | literal w => exact absurd (accepts_literal.mp hv) (hn w hs)
      | param m' k =>
        cases k with
        | string => simp [covers]
        | int =>
          -- an `int` parameter accepts digits only
          have hdigits := (ParamKind.accepts_iff.mp hv).2 'a' (by simp)
          exact absurd hdigits (by decide)

/-- The values of several segments, chosen one by one. -/
lemma exists_fit_of_only_covers (ts ss : List Segment) :
    ∃ vs, Fit ts vs ∧ ∀ us, (∀ s ∈ us, s ∈ ss) → Fit us vs → pairwise covers us ts = true := by
  induction ts with
  | nil =>
    refine ⟨[], fit_nil, fun us _ hus => ?_⟩
    obtain rfl := List.forall₂_nil_right_iff.mp hus
    rfl
  | cons t ts ih =>
    obtain ⟨v, hv, honly⟩ := exists_accepts_of_only_covers t ss
    obtain ⟨vs, hvs, hrest⟩ := ih
    refine ⟨v :: vs, fit_cons.mpr ⟨hv, hvs⟩, fun us hmem hus => ?_⟩
    obtain ⟨s, rest, hs, hfit, rfl⟩ := List.forall₂_cons_right_iff.mp hus
    rw [List.forall_mem_cons] at hmem
    rw [pairwise, Bool.and_eq_true]
    exact ⟨honly s hmem.1 hs, hrest rest hmem.2 hfit⟩

end Segment

namespace Pattern

/-- A pattern that covers another accepts all its paths. -/
theorem accepts_of_covers {p q : Pattern} (h : p.covers q = true) {path : String}
    (hq : q.accepts path = true) : p.accepts path = true := by
  obtain ⟨hfree, vs, hfit, rfl⟩ := accepts_iff.mp hq
  rw [accepts_pathOf_iff hfree hfit]
  exact Segment.fit_of_pairwise_covers h hfit

/-- **Escaping several patterns.**  Some path of a pattern escapes all patterns of a list exactly
when none of them covers it alone. -/
theorem exists_escape_iff {q : Pattern} (hq : q.IsSlashFree) (ps : List Pattern) :
    (∃ path, q.accepts path = true ∧ ∀ p ∈ ps, p.accepts path = false) ↔
      ∀ p ∈ ps, p.covers q = false := by
  constructor
  · rintro ⟨path, hpath, hescape⟩ p hp
    rw [Bool.eq_false_iff]
    intro hcovers
    have haccepts : p.accepts path = true := accepts_of_covers hcovers hpath
    rw [hescape p hp] at haccepts
    exact absurd haccepts Bool.false_ne_true
  · intro hnone
    obtain ⟨vs, hfit, honly⟩ :=
      Segment.exists_fit_of_only_covers q.segments (ps.flatMap Pattern.segments)
    refine ⟨pathOf vs, (accepts_pathOf_iff hq hfit).mpr hfit, fun p hp => ?_⟩
    rw [Bool.eq_false_iff]
    intro haccepts
    have hmem : ∀ s ∈ p.segments, s ∈ ps.flatMap Pattern.segments :=
      fun s hs => List.mem_flatMap.mpr ⟨p, hp, hs⟩
    have hcovers : p.covers q = true :=
      honly p.segments hmem ((accepts_pathOf_iff hq hfit).mp haccepts)
    rw [hnone p hp] at hcovers
    exact absurd hcovers Bool.false_ne_true

end Pattern

end PathRouter
