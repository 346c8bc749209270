import PathRouter.Pattern.Fill
import PathRouter.Proofs.Pattern.Matching

/-!
# Matching inverts filling

Filling a pattern with values gives a path, and matching that path gives the values back.  This file
makes the two inverse to each other (`Pattern.match?_inverts_fill?`): a pattern without slashes in
its literals matches exactly the paths with which it can be filled, each of them for one list of
values, and captures these values.

A name that occurs more than once captures the value at its last place, so the captures determine
the values, and through them the path, only when the names are distinct.
-/

namespace PathRouter

namespace Segment

/-- The kind of a parameter. -/
def kind? : Segment → Option ParamKind
  | literal _ => none
  | param _ k => some k

/-- Filled segments are pieces that fit, with the values at the parameters. -/
theorem fillAll?_eq_some_iff {ss : List Segment} {us vs : List String} :
    fillAll? ss us = some vs ↔ Fit ss vs ∧ valuesAt ss vs = us := by
  induction ss generalizing us vs with
  | nil =>
    cases us <;> cases vs <;> simp [fillAll?, Fit, valuesAt]
  | cons s ss ih =>
    cases s with
    | literal t =>
      rw [fillAll?, Option.map_eq_some_iff]
      constructor
      · rintro ⟨ws, hws, rfl⟩
        obtain ⟨hfit, hvalues⟩ := ih.mp hws
        exact ⟨fit_cons.mpr ⟨accepts_literal.mpr rfl, hfit⟩, hvalues⟩
      · rintro ⟨hfit, hvalues⟩
        cases vs with
        | nil => cases hfit
        | cons v vs =>
          obtain ⟨hv, hfit⟩ := fit_cons.mp hfit
          exact ⟨vs, ih.mpr ⟨hfit, hvalues⟩, by rw [accepts_literal.mp hv]⟩
    | param n k =>
      cases us with
      | nil =>
        cases vs with
        | nil => simp [fillAll?, Fit]
        | cons v vs => simp [fillAll?, valuesAt]
      | cons u us =>
        rw [fillAll?]
        constructor
        · intro h
          split at h
          · rename_i hu
            obtain ⟨ws, hws, rfl⟩ := Option.map_eq_some_iff.mp h
            obtain ⟨hfit, hvalues⟩ := ih.mp hws
            exact ⟨fit_cons.mpr ⟨hu, hfit⟩, by rw [valuesAt, hvalues]⟩
          · simp at h
        · rintro ⟨hfit, hvalues⟩
          cases vs with
          | nil => cases hfit
          | cons v vs =>
            obtain ⟨hv, hfit⟩ := fit_cons.mp hfit
            rw [valuesAt, List.cons.injEq] at hvalues
            obtain ⟨rfl, hvalues⟩ := hvalues
            have hk : k.accepts v = true := hv
            rw [if_pos hk, ih.mpr ⟨hfit, hvalues⟩]
            rfl

/-- The values in pieces that fit are of the right kinds. -/
lemma isValue_valuesAt {ss : List Segment} {vs : List String} (h : Fit ss vs) :
    List.Forall₂ ParamKind.IsValue (ss.filterMap kind?)
      (valuesAt ss vs) := by
  induction h with
  | nil => exact .nil
  | @cons s v ss vs hs _ ih =>
    cases s with
    | literal t => exact ih
    | param n k => exact .cons (ParamKind.accepts_iff.mp hs) ih

/-- Values of the right kinds have their places in pieces that fit. -/
lemma exists_fit_of_isValue {ss : List Segment} {us : List String}
    (h : List.Forall₂ ParamKind.IsValue (ss.filterMap kind?) us) :
    ∃ vs, Fit ss vs ∧ valuesAt ss vs = us := by
  induction ss generalizing us with
  | nil =>
    cases h
    exact ⟨[], fit_nil, rfl⟩
  | cons s ss ih =>
    cases s with
    | literal t =>
      obtain ⟨vs, hfit, hvalues⟩ := ih h
      exact ⟨t :: vs, fit_cons.mpr ⟨accepts_literal.mpr rfl, hfit⟩, hvalues⟩
    | param n k =>
      obtain ⟨u, us, hu, hus, rfl⟩ := List.forall₂_cons_left_iff.mp h
      obtain ⟨vs, hfit, hvalues⟩ := ih hus
      exact ⟨u :: vs, fit_cons.mpr ⟨ParamKind.accepts_iff.mpr hu, hfit⟩, by rw [valuesAt, hvalues]⟩

end Segment

namespace Pattern

/-- The kinds of the parameters from left to right. -/
def paramKinds (p : Pattern) : List ParamKind := p.segments.filterMap Segment.kind?

/-- A filled pattern is the path of pieces that fit. -/
theorem fill?_eq_some_iff {p : Pattern} {values : List String} {path : String} :
    p.fill? values = some path ↔ p.segments ≠ [] ∧
      ∃ vs, Segment.Fit p.segments vs ∧ Segment.valuesAt p.segments vs = values ∧
        path = pathOf vs := by
  unfold fill?
  by_cases hne : p.segments = []
  · simp [hne]
  · rw [if_neg hne, Option.map_eq_some_iff]
    constructor
    · rintro ⟨vs, hvs, rfl⟩
      obtain ⟨hfit, hvalues⟩ := Segment.fillAll?_eq_some_iff.mp hvs
      exact ⟨hne, vs, hfit, hvalues, rfl⟩
    · rintro ⟨-, vs, hfit, hvalues, rfl⟩
      exact ⟨vs, Segment.fillAll?_eq_some_iff.mpr ⟨hfit, hvalues⟩, rfl⟩

/-- Every list of values of the right kinds fills the pattern. -/
lemma exists_fill?_eq_some {p : Pattern} (hne : p.segments ≠ []) {values : List String}
    (h : List.Forall₂ ParamKind.IsValue p.paramKinds values) :
    ∃ path, p.fill? values = some path := by
  obtain ⟨vs, hfit, hvalues⟩ := Segment.exists_fit_of_isValue h
  exact ⟨pathOf vs, fill?_eq_some_iff.mpr ⟨hne, vs, hfit, hvalues, rfl⟩⟩

/-- No other values fill it. -/
lemma isValue_of_fill? {p : Pattern} {values : List String} {path : String}
    (h : p.fill? values = some path) :
    List.Forall₂ ParamKind.IsValue p.paramKinds values := by
  obtain ⟨-, vs, hfit, rfl, -⟩ := fill?_eq_some_iff.mp h
  exact Segment.isValue_valuesAt hfit

/-- A filled pattern has a value for each name. -/
lemma length_paramNames_of_fill? {p : Pattern} {values : List String} {path : String}
    (h : p.fill? values = some path) : p.paramNames.length = values.length := by
  obtain ⟨-, vs, hfit, rfl, -⟩ := fill?_eq_some_iff.mp h
  exact Segment.length_valuesAt hfit

/-- Matching finds the values with which a pattern was filled. -/
lemma match?_of_fill? {p : Pattern} (hp : p.IsSlashFree) {values : List String} {path : String}
    (h : p.fill? values = some path) :
    p.match? path = some (.ofList (p.paramNames.zip values)) := by
  obtain ⟨-, vs, hfit, rfl, hpath⟩ := fill?_eq_some_iff.mp h
  exact match?_eq_some_iff.mpr ⟨hp, vs, hfit, hpath, rfl⟩

/-- A path that matches is a filled pattern. -/
lemma exists_fill?_of_match? {p : Pattern} {path : String} {ps : Params}
    (h : p.match? path = some ps) :
    p.IsSlashFree ∧
      ∃ values, p.fill? values = some path ∧ ps = .ofList (p.paramNames.zip values) := by
  obtain ⟨hp, vs, hfit, hpath, hps⟩ := match?_eq_some_iff.mp h
  exact ⟨hp, Segment.valuesAt p.segments vs,
    fill?_eq_some_iff.mpr ⟨hp.1, vs, hfit, rfl, hpath⟩, hps⟩

/-- A path is filled with one list of values only. -/
lemma fill?_injective {p : Pattern} (hp : p.IsSlashFree) {us vs : List String} {path : String}
    (hu : p.fill? us = some path) (hv : p.fill? vs = some path) : us = vs := by
  obtain ⟨-, as, hfitA, rfl, rfl⟩ := fill?_eq_some_iff.mp hu
  obtain ⟨-, bs, hfitB, rfl, hpath⟩ := fill?_eq_some_iff.mp hv
  rw [fit_unique hp hfitA hfitB hpath]

/-- **Matching inverts filling.**  A path matches exactly when the pattern, whose literals must be
free of slashes, can be filled to it with values of the right kinds; these are unique, and they are
what the names capture.
With distinct names, filling and matching give each other's data back. -/
theorem match?_inverts_fill? (p : Pattern) :
    (∀ path ps, p.match? path = some ps ↔
      p.IsSlashFree ∧ ∃ values,
        List.Forall₂ ParamKind.IsValue p.paramKinds values ∧
          p.fill? values = some path ∧ ps = .ofList (p.paramNames.zip values)) ∧
    (∀ path us vs, p.IsSlashFree → p.fill? us = some path → p.fill? vs = some path → us = vs) ∧
    (∀ path ps values, p.match? path = some ps → p.fill? values = some path →
      ps.keys = p.paramNames.eraseDups ∧
        ∀ (i : Nat) (n : String), p.paramNames[i]? = some n → n ∉ p.paramNames.drop (i + 1) →
          ps.get? n = values[i]?) ∧
    (p.IsSlashFree → p.paramNames.Nodup →
      (∀ values, List.Forall₂ ParamKind.IsValue p.paramKinds values →
        ∃ path ps, p.fill? values = some path ∧ p.match? path = some ps ∧
          p.paramNames.mapM ps.get? = some values) ∧
      ∀ path ps, p.match? path = some ps → p.fillNamed? ps = some path) := by
  refine ⟨?_, ?_, ?_, ?_⟩
  · intro path ps
    constructor
    · intro hmatch
      obtain ⟨hp, values, hfill, hps⟩ := exists_fill?_of_match? hmatch
      exact ⟨hp, values, isValue_of_fill? hfill, hfill, hps⟩
    · rintro ⟨hp, values, -, hfill, rfl⟩
      exact match?_of_fill? hp hfill
  · intro path us vs hp hu hv
    exact fill?_injective hp hu hv
  · intro path ps values hmatch hfill
    have hlen := length_paramNames_of_fill? hfill
    have hp : p.IsSlashFree := (exists_fill?_of_match? hmatch).1
    rw [match?_of_fill? hp hfill, Option.some_inj] at hmatch
    subst hmatch
    constructor
    · exact OrderedMap.keys_ofList_zip hlen
    · intro i n hi hlast
      exact OrderedMap.get?_ofList_zip hlen hi hlast
  · intro hp hnd
    constructor
    · intro values hvalues
      obtain ⟨path, hfill⟩ := exists_fill?_eq_some hp.1 hvalues
      exact ⟨path, _, hfill, match?_of_fill? hp hfill,
        OrderedMap.mapM_get?_ofList_zip hnd (length_paramNames_of_fill? hfill)⟩
    · intro path ps hmatch
      obtain ⟨-, values, hfill, rfl⟩ := exists_fill?_of_match? hmatch
      have hvalues := OrderedMap.mapM_get?_ofList_zip hnd (length_paramNames_of_fill? hfill)
      rw [fillNamed?, hvalues]
      exact hfill

/-- A user's page: the number and the name of the tab are the values. -/
theorem match?_inverts_fill?_user :
    let p : Pattern :=
      ⟨"/user/:id(int)/:tab(string)", [.literal "user", .param "id" .int, .param "tab" .string]⟩
    p.IsSlashFree ∧ p.paramNames.Nodup ∧
      (∀ us, p.fill? us = some "/user/42/posts" → us = ["42", "posts"]) ∧
      ∃ ps, p.match? "/user/42/posts" = some ps ∧ ps.keys = ["id", "tab"] ∧
        p.paramNames.mapM ps.get? = some ["42", "posts"] ∧
        p.fillNamed? ps = some "/user/42/posts" := by
  intro p
  have hp : p.IsSlashFree := by
    simp [IsSlashFree, p]
  have hnd : p.paramNames.Nodup := by decide
  have hfill : p.fill? ["42", "posts"] = some "/user/42/posts" := by decide +kernel
  have hvalues : List.Forall₂ ParamKind.IsValue p.paramKinds
      ["42", "posts"] := by decide +kernel
  obtain ⟨-, hunique, hkeys, hnames⟩ := match?_inverts_fill? p
  obtain ⟨hback, hforth⟩ := hnames hp hnd
  obtain ⟨path, ps, hpath, hmatch, hread⟩ := hback ["42", "posts"] hvalues
  obtain rfl : path = "/user/42/posts" := Option.some_inj.mp (hpath.symm.trans hfill)
  exact ⟨hp, hnd, fun us hus => hunique _ us _ hp hus hfill, ps, hmatch,
    (hkeys _ ps _ hmatch hfill).1, hread, hforth _ ps hmatch⟩

end Pattern

end PathRouter
