import Mathlib.Data.List.Forall2
import PathRouter.Pattern.Grammar
import PathRouter.Proofs.OrderedMap

/-!
# The paths that match a pattern

A path is a slash before each of its pieces, and it matches a pattern when its pieces fit the
segments one by one.  `Segment.Fit` is that relation between segments and pieces, without captures
and without the text of the path, and `Segment.valuesAt` picks the pieces at the parameters.

The main statement `Pattern.match?_eq_some_iff` puts matching in these terms.  Splitting a path
gives back the pieces it was made of only if none of them holds a slash.  The values of a parameter
never do, so this is a condition on the literal texts (`Pattern.IsSlashFree`).
-/

namespace PathRouter

namespace ParamKind

/-- No kind admits the slash. -/
lemma slash_not_mem_of_accepts {k : ParamKind} {value : String} (h : k.accepts value = true) :
    '/' ∉ value.toList := by
  intro hmem
  have hslash : k.Admits '/' := (accepts_iff.mp h).2 '/' hmem
  cases k <;> exact absurd hslash (by decide)

end ParamKind

namespace Segment

/-- The pieces fit the segments one by one. -/
def Fit (ss : List Segment) (vs : List String) : Prop :=
  List.Forall₂ (fun s v => s.accepts v = true) ss vs

/-- The pieces at the parameters. -/
def valuesAt : List Segment → List String → List String
  | literal _ :: ss, _ :: vs => valuesAt ss vs
  | param _ _ :: ss, v :: vs => v :: valuesAt ss vs
  | _, _ => []

@[simp] lemma fit_nil : Fit [] [] := List.Forall₂.nil

@[simp] lemma fit_cons {s : Segment} {ss : List Segment} {v : String} {vs : List String} :
    Fit (s :: ss) (v :: vs) ↔ s.accepts v = true ∧ Fit ss vs :=
  List.forall₂_cons

@[simp] lemma accepts_literal {t v : String} : (literal t).accepts v = true ↔ v = t := by
  simp [accepts]

@[simp] lemma accepts_param {n : String} {k : ParamKind} {v : String} :
    (param n k).accepts v = k.accepts v := rfl

/-- Nothing but no pieces fits no segments. -/
lemma ne_nil_of_fit {ss : List Segment} {vs : List String} (h : Fit ss vs) :
    vs ≠ [] ↔ ss ≠ [] := by
  cases h <;> simp

lemma valuesAt_cons (s : Segment) (ss : List Segment) (v : String) (vs : List String) :
    valuesAt (s :: ss) (v :: vs) = valuesAt [s] [v] ++ valuesAt ss vs := by
  cases s <;> rfl

/-- There is one value for each name. -/
lemma length_valuesAt {ss : List Segment} {vs : List String} (h : Fit ss vs) :
    (ss.filterMap name?).length = (valuesAt ss vs).length := by
  induction h with
  | nil => rfl
  | @cons s v ss vs _ _ ih =>
    cases s with
    | literal t => exact ih
    | param n k => simpa [name?, valuesAt] using ih

/-- The captures are the names of the parameters beside the pieces at their places. -/
lemma captureAll_of_fit {ss : List Segment} {vs : List String} (h : Fit ss vs) (ps : Params) :
    captureAll ss vs ps = some (ps.putAll ((ss.filterMap name?).zip (valuesAt ss vs))) := by
  induction h generalizing ps with
  | nil => rfl
  | @cons s v ss vs hs _ ih =>
    rw [captureAll, if_pos hs, ih]
    cases s with
    | literal t => rfl
    | param n k => simp [capture, name?, valuesAt]

/-- Only pieces that fit are captured. -/
lemma fit_of_captureAll {ss : List Segment} {vs : List String} {ps qs : Params}
    (h : captureAll ss vs ps = some qs) : Fit ss vs := by
  induction ss generalizing vs ps with
  | nil =>
    cases vs with
    | nil => exact fit_nil
    | cons v vs => simp [captureAll] at h
  | cons s ss ih =>
    cases vs with
    | nil => simp [captureAll] at h
    | cons v vs =>
      rw [captureAll] at h
      split at h
      · rename_i hs
        exact fit_cons.mpr ⟨hs, ih h⟩
      · simp at h

/-- Matching pieces against segments. -/
theorem captureAll_eq_some_iff {ss : List Segment} {vs : List String} {ps qs : Params} :
    captureAll ss vs ps = some qs ↔
      Fit ss vs ∧ qs = ps.putAll ((ss.filterMap name?).zip (valuesAt ss vs)) := by
  constructor
  · intro h
    have hfit : Fit ss vs := fit_of_captureAll h
    rw [captureAll_of_fit hfit, Option.some_inj] at h
    exact ⟨hfit, h.symm⟩
  · rintro ⟨hfit, rfl⟩
    exact captureAll_of_fit hfit ps

/-- A slash in a piece that fits can only come from a literal. -/
lemma slash_not_mem_iff_of_fit {ss : List Segment} {vs : List String} (h : Fit ss vs) :
    (∀ v ∈ vs, '/' ∉ v.toList) ↔ ∀ t, literal t ∈ ss → '/' ∉ t.toList := by
  induction h with
  | nil => simp
  | @cons s v ss vs hs _ ih =>
    rw [List.forall_mem_cons, ih]
    cases s with
    | literal t =>
      rw [accepts_literal] at hs
      subst hs
      simp
    | param n k =>
      have hv : '/' ∉ v.toList := ParamKind.slash_not_mem_of_accepts hs
      simp [hv]

end Segment

namespace Pattern

/-- The pattern has segments, and no literal among them holds a slash. -/
def IsSlashFree (p : Pattern) : Prop :=
  p.segments ≠ [] ∧ ∀ t, .literal t ∈ p.segments → '/' ∉ t.toList

/-- The pieces that fit such a pattern can be told apart in a path. -/
lemma IsSlashFree.pieces {p : Pattern} (hp : p.IsSlashFree) {vs : List String}
    (hfit : Segment.Fit p.segments vs) : vs ≠ [] ∧ ∀ v ∈ vs, '/' ∉ v.toList :=
  ⟨(Segment.ne_nil_of_fit hfit).mpr hp.1, (Segment.slash_not_mem_iff_of_fit hfit).mpr hp.2⟩

/-- A slash before each piece. -/
def pathOf (vs : List String) : String :=
  String.ofList ('/' :: Text.joinWith '/' (vs.map String.toList))

/-- A path is cut into the pieces of which it was made. -/
lemma match?_pathOf (p : Pattern) {vs : List String} (hne : vs ≠ [])
    (hslash : ∀ v ∈ vs, '/' ∉ v.toList) :
    p.match? (pathOf vs) = Segment.captureAll p.segments vs ∅ := by
  have hcut : Text.splitOn '/' (Text.joinWith '/' (vs.map String.toList)) = vs.map String.toList :=
    Text.splitOn_joinWith (by simpa using hne) (by simpa using hslash)
  simp [match?, pathOf, hcut, Function.comp_def]

/-- A path that matches at all is made of pieces without slashes. -/
lemma exists_pathOf_of_match? {p : Pattern} {path : String} {ps : Params}
    (h : p.match? path = some ps) :
    ∃ vs, vs ≠ [] ∧ (∀ v ∈ vs, '/' ∉ v.toList) ∧ path = pathOf vs := by
  unfold match? at h
  split at h
  · rename_i cs hpath
    refine ⟨(Text.splitOn '/' cs).map String.ofList, ?_, ?_, ?_⟩
    · simpa using Text.splitOn_ne_nil '/' cs
    · intro v hv
      obtain ⟨piece, hpiece, rfl⟩ := List.mem_map.mp hv
      simpa using Text.not_mem_of_mem_splitOn hpiece
    · rw [pathOf, List.map_map]
      simp [Function.comp_def, Text.joinWith_splitOn, ← hpath]
  · simp at h

/-- A path matches exactly when it is made of pieces that fit, and then the names capture the pieces
at the parameters. -/
theorem match?_eq_some_iff {p : Pattern} {path : String} {ps : Params} :
    p.match? path = some ps ↔
      p.IsSlashFree ∧ ∃ vs, Segment.Fit p.segments vs ∧ path = pathOf vs ∧
        ps = .ofList (p.paramNames.zip (Segment.valuesAt p.segments vs)) := by
  constructor
  · intro h
    obtain ⟨vs, hne, hslash, rfl⟩ := exists_pathOf_of_match? h
    rw [match?_pathOf p hne hslash, Segment.captureAll_eq_some_iff,
      ← OrderedMap.ofList_eq_putAll] at h
    obtain ⟨hfit, hps⟩ := h
    exact ⟨⟨(Segment.ne_nil_of_fit hfit).mp hne,
      (Segment.slash_not_mem_iff_of_fit hfit).mp hslash⟩, vs, hfit, rfl, hps⟩
  · rintro ⟨hp, vs, hfit, rfl, rfl⟩
    obtain ⟨hne, hslash⟩ := hp.pieces hfit
    rw [match?_pathOf p hne hslash, OrderedMap.ofList_eq_putAll]
    exact Segment.captureAll_of_fit hfit ∅

/-- Whether a pattern accepts a path of another pattern is seen from the pieces. -/
lemma accepts_pathOf_iff {p q : Pattern} (hq : q.IsSlashFree) {vs : List String}
    (hfit : Segment.Fit q.segments vs) :
    p.accepts (pathOf vs) = true ↔ Segment.Fit p.segments vs := by
  obtain ⟨hne, hslash⟩ := hq.pieces hfit
  rw [accepts, match?_pathOf p hne hslash, Option.isSome_iff_exists]
  constructor
  · rintro ⟨ps, hps⟩
    exact Segment.fit_of_captureAll hps
  · intro hfit
    exact ⟨_, Segment.captureAll_of_fit hfit ∅⟩

/-- A pattern accepts the paths made of pieces that fit. -/
lemma accepts_iff {p : Pattern} {path : String} :
    p.accepts path = true ↔
      p.IsSlashFree ∧ ∃ vs, Segment.Fit p.segments vs ∧ path = pathOf vs := by
  rw [accepts, Option.isSome_iff_exists]
  constructor
  · rintro ⟨ps, hps⟩
    obtain ⟨hp, vs, hfit, hpath, -⟩ := match?_eq_some_iff.mp hps
    exact ⟨hp, vs, hfit, hpath⟩
  · rintro ⟨hp, vs, hfit, hpath⟩
    exact ⟨_, match?_eq_some_iff.mpr ⟨hp, vs, hfit, hpath, rfl⟩⟩

/-- The pieces of a path are determined by the path. -/
lemma pathOf_injective {us vs : List String} (hus : us ≠ []) (hvs : vs ≠ [])
    (hu : ∀ u ∈ us, '/' ∉ u.toList) (hv : ∀ v ∈ vs, '/' ∉ v.toList)
    (h : pathOf us = pathOf vs) : us = vs := by
  have hjoin : Text.joinWith '/' (us.map String.toList) =
      Text.joinWith '/' (vs.map String.toList) := by
    simpa [pathOf] using congrArg String.toList h
  have hcut := congrArg (Text.splitOn '/') hjoin
  rw [Text.splitOn_joinWith (by simpa using hus) (by simpa using hu),
    Text.splitOn_joinWith (by simpa using hvs) (by simpa using hv)] at hcut
  exact List.map_injective_iff.mpr (fun _ _ => String.toList_inj.mp) hcut

/-- A path is made of pieces that fit in one way only. -/
lemma fit_unique {p : Pattern} (hp : p.IsSlashFree) {us vs : List String}
    (hus : Segment.Fit p.segments us) (hvs : Segment.Fit p.segments vs)
    (h : pathOf us = pathOf vs) : us = vs := by
  obtain ⟨hune, hu⟩ := hp.pieces hus
  obtain ⟨hvne, hv⟩ := hp.pieces hvs
  exact pathOf_injective hune hvne hu hv h

end Pattern

end PathRouter
