import Mathlib.Tactic.TFAE
import PathRouter.Proofs.Expression.Agreement
import PathRouter.Proofs.Pattern.Covering

/-!
# The canonical form of a pattern

What a compiled pattern matches does not depend on the names of its parameters, and on nothing else
can two patterns differ without matching different paths: the segments without the names
(`Pattern.shape`) are a canonical form.  The expression of a pattern is another one
(`Pattern.canonical_form`), and together with the names it determines the segments.

The three properties are proved in a circle.  Patterns that match the same paths cover each other,
and segments that cover each other differ in names only (`Segment.unnamed_eq_of_covers`).  The
expression is written without the names.  Equal expressions are read as equal parts, by which the
paths are determined; so two patterns of different shapes are never written alike, whatever their
literals hold.
-/

namespace PathRouter

namespace Segment

/-- Segments that cover each other differ in names only. -/
lemma unnamed_eq_of_covers {s t : Segment} (hst : s.covers t = true) (hts : t.covers s = true) :
    s.unnamed = t.unnamed := by
  cases s with
  | literal u =>
    cases t with
    | literal w =>
      have hw : w = u := accepts_literal.mp hst
      rw [hw]
    | param m l => simp [covers] at hst
  | param n k =>
    cases t with
    | literal w => simp [covers] at hts
    | param m l =>
      have hkl : k = l := by
        cases k <;> cases l <;> simp_all [covers]
      rw [unnamed, unnamed, hkl]

/-- Lists of segments that cover each other one by one differ in names only. -/
lemma map_unnamed_eq_of_covers {ss ts : List Segment} (hst : pairwise covers ss ts = true)
    (hts : pairwise covers ts ss = true) : ss.map unnamed = ts.map unnamed := by
  rw [pairwise_iff] at hst hts
  induction hst with
  | nil => rfl
  | @cons s t ss ts hst _ ih =>
    obtain ⟨hts, hrest⟩ := List.forall₂_cons.mp hts
    rw [List.map_cons, List.map_cons, unnamed_eq_of_covers hst hts, ih hrest]

/-- The expression of a segment does not show its name. -/
@[simp] lemma expression_unnamed (s : Segment) : s.unnamed.expression = s.expression := by
  cases s <;> rfl

/-- Segments without names, and the names, determine the segments. -/
lemma eq_of_map_unnamed {ss ts : List Segment} (hshape : ss.map unnamed = ts.map unnamed)
    (hnames : ss.filterMap name? = ts.filterMap name?) : ss = ts := by
  induction ss generalizing ts with
  | nil => exact (List.map_eq_nil_iff.mp hshape.symm).symm
  | cons s ss ih =>
    cases ts with
    | nil => simp at hshape
    | cons t ts =>
      rw [List.map_cons, List.map_cons, List.cons.injEq] at hshape
      obtain ⟨hhead, htail⟩ := hshape
      cases s with
      | literal u =>
        cases t with
        | literal w => rw [literal.inj hhead, ih htail hnames]
        | param m l => simp [unnamed] at hhead
      | param n k =>
        cases t with
        | literal w => simp [unnamed] at hhead
        | param m l =>
          obtain ⟨-, rfl⟩ := param.inj hhead
          simp only [List.filterMap_cons, name?, List.cons.injEq] at hnames
          rw [hnames.1, ih htail hnames.2]

end Segment

namespace Pattern

/-- The expression is written without the names. -/
lemma expression_eq_of_shape {p q : Pattern} (h : p.shape = q.shape) :
    p.expression = q.expression := by
  have hbody : ∀ r : Pattern, r.segments.map (fun s => s.expression.toList) =
      r.shape.map fun s => s.expression.toList := by
    intro r
    rw [shape, List.map_map]
    simp [Function.comp_def]
  rw [expression, expression, hbody p, hbody q, h]

/-- Equal expressions are read as equal parts. -/
lemma parts_eq_of_expression {p q : Pattern} (h : p.expression = q.expression) :
    p.parts = q.parts := by
  have hread := read?_expression p
  rw [h, read?_expression q, Option.some_inj] at hread
  exact hread.symm

/-- The parts determine the paths that match. -/
lemma accepts_iff_matches_parts {p : Pattern} (hp : p.IsSlashFree) {path : String} :
    p.accepts path = true ↔ ∃ captures, Expression.Matches p.parts path.toList captures := by
  rw [accepts_iff]
  constructor
  · rintro ⟨-, vs, hfit, hpath⟩
    exact ⟨_, matches_parts_iff.mpr ⟨vs, hfit, hpath, rfl⟩⟩
  · rintro ⟨captures, hcaptures⟩
    obtain ⟨vs, hfit, hpath, -⟩ := matches_parts_iff.mp hcaptures
    exact ⟨hp, vs, hfit, hpath⟩

/-- A pattern that matches all paths of another covers it. -/
lemma covers_of_forall_accepts {p q : Pattern} (hq : q.IsSlashFree)
    (h : ∀ path, q.accepts path = true → p.accepts path = true) : p.covers q = true := by
  rw [← Bool.not_eq_false]
  intro hnot
  obtain ⟨path, hpath, hescape⟩ := (exists_escape_iff hq [p]).mpr (by simpa using hnot)
  have hnone : p.accepts path = false := hescape p (by simp)
  rw [h path hpath] at hnone
  exact Bool.noConfusion hnone

/-- **Canonical form.**  Two compiled patterns match the same paths exactly when their expressions
are equal, and exactly when their segments are equal up to the names of parameters.  The segments
themselves are equal exactly when the expressions and the names are. -/
theorem canonical_form {source source' : String} {p q : Pattern} (hp : compile source = .ok p)
    (hq : compile source' = .ok q) :
    List.TFAE [∀ path, p.accepts path = q.accepts path, p.expression = q.expression,
      p.shape = q.shape] ∧
    (p.segments = q.segments ↔ p.expression = q.expression ∧ p.paramNames = q.paramNames) := by
  have hpfree : p.IsSlashFree := isSlashFree_of_compile hp
  have hqfree : q.IsSlashFree := isSlashFree_of_compile hq
  have hshape : (∀ path, p.accepts path = q.accepts path) → p.shape = q.shape := by
    intro h
    have hpq : p.covers q = true := covers_of_forall_accepts hqfree fun path => (h path).trans
    have hqp : q.covers p = true :=
      covers_of_forall_accepts hpfree fun path => (h path).symm.trans
    exact Segment.map_unnamed_eq_of_covers hpq hqp
  have haccepts : p.expression = q.expression → ∀ path, p.accepts path = q.accepts path := by
    intro h path
    rw [Bool.eq_iff_iff, accepts_iff_matches_parts hpfree, accepts_iff_matches_parts hqfree,
      parts_eq_of_expression h]
  constructor
  · tfae_have 1 → 3 := hshape
    tfae_have 3 → 2 := expression_eq_of_shape
    tfae_have 2 → 1 := haccepts
    tfae_finish
  · constructor
    · intro h
      have hsame : p.shape = q.shape := congrArg (List.map Segment.unnamed) h
      exact ⟨expression_eq_of_shape hsame, congrArg (List.filterMap Segment.name?) h⟩
    · rintro ⟨hexpression, hnames⟩
      exact Segment.eq_of_map_unnamed (hshape (haccepts hexpression)) hnames

/-- The number and the page of a user are the same pattern up to names, but the page of a literal
that looks like the group of a number is another one. -/
theorem canonical_form_user :
    ∃ p q r, compile "/user/:id(int)" = .ok p ∧ compile "user/:page(int)/" = .ok q ∧
      compile "/user/(\\d+)" = .ok r ∧ p.expression = q.expression ∧ p.segments ≠ q.segments ∧
      (∀ path, p.accepts path = q.accepts path) ∧ p.expression ≠ r.expression ∧
      ¬∀ path, p.accepts path = r.accepts path := by
  let p : Pattern := ⟨"/user/:id(int)", [.literal "user", .param "id" .int]⟩
  let q : Pattern := ⟨"user/:page(int)/", [.literal "user", .param "page" .int]⟩
  let r : Pattern := ⟨"/user/(\\d+)", [.literal "user", .literal "(\\d+)"]⟩
  have hp : compile "/user/:id(int)" = .ok p := by decide +kernel
  have hq : compile "user/:page(int)/" = .ok q := by decide +kernel
  have hr : compile "/user/(\\d+)" = .ok r := by decide +kernel
  obtain ⟨hpq, hsegments⟩ := canonical_form hp hq
  obtain ⟨hpr, -⟩ := canonical_form hp hr
  have hshape : p.shape = q.shape := by decide
  have hother : p.shape ≠ r.shape := by decide
  have hnames : p.paramNames ≠ q.paramNames := by decide
  refine ⟨p, q, r, hp, hq, hr, (hpq.out 1 2).mpr hshape, fun h => hnames (hsegments.mp h).2,
    (hpq.out 0 2).mpr hshape, fun h => hother ((hpr.out 1 2).mp h),
    fun h => hother ((hpr.out 0 2).mp h)⟩

end Pattern

end PathRouter
