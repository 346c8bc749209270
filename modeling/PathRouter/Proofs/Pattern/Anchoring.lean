import PathRouter.Proofs.Pattern.Compilation

/-!
# Slashes at the ends of a path

The slashes at the ends of a pattern do not count, but those of a path do.  Apart from the root, a
compiled pattern accepts only paths that start with one slash and do not end with one
(`Pattern.isAnchored_of_accepts`), and the root is accepted by the patterns that consist of slashes
(`Pattern.accepts_root_iff`).

An empty piece of a path can only stand where the pattern has an empty piece, because no parameter
has an empty value (`Segment.eq_empty_iff_of_fit`).  The first and the last piece of a trimmed
pattern are not empty, unless there is no other.
-/

namespace PathRouter

namespace Segment

/-- Only the empty piece spells a segment that accepts the empty text. -/
lemma accepts_empty_iff {cs : List Char} {s : Segment} (h : Spells cs s) :
    s.accepts "" = true ↔ cs = [] := by
  cases h with
  | literal _ =>
    have hempty : "" = String.ofList [] := rfl
    rw [accepts_literal, hempty, String.ofList_inj]
    exact eq_comm
  | param k _ =>
    have hempty : k.accepts "" = false := rfl
    simp [hempty]

/-- Pieces that fit are empty where the pieces of the pattern are. -/
lemma eq_empty_iff_of_fit {pieces : List (List Char)} {ss : List Segment} {vs : List String}
    (hspells : List.Forall₂ Spells pieces ss) (hfit : Fit ss vs) :
    List.Forall₂ (fun cs v => v = "" ↔ cs = []) pieces vs := by
  induction hspells generalizing vs with
  | nil =>
    cases hfit
    exact .nil
  | @cons cs s pieces ss hs _ ih =>
    obtain ⟨v, vs, hv, hvs, rfl⟩ := List.forall₂_cons_left_iff.mp hfit
    refine .cons ?_ (ih hvs)
    constructor
    · rintro rfl
      exact (accepts_empty_iff hs).mp hv
    · rintro rfl
      cases hs with
      | literal _ => exact accepts_literal.mp hv

end Segment

namespace Pattern

/-- The path starts with one slash and does not end with one. -/
structure IsAnchored (path : String) : Prop where
  slash : path.toList.head? = some '/'
  single : ¬['/', '/'] <+: path.toList
  ending : path.toList.getLast? ≠ some '/'

/-- The root is the path of one empty piece. -/
lemma pathOf_empty : pathOf [""] = "/" := rfl

/-- Nothing but slashes is cut into one empty piece. -/
lemma cut_eq_singleton_nil_iff {source : String} :
    cut source = [[]] ↔ ∀ c ∈ source.toList, c = '/' := by
  rw [← Text.trimEnds_eq_nil_iff, cut]
  constructor
  · intro h
    have hjoin := Text.joinWith_splitOn '/' (Text.trimEnds '/' source.toList)
    rw [h] at hjoin
    exact hjoin.symm
  · intro h
    rw [h]
    rfl

/-- The ends of the pieces that fit a compiled pattern: there is one empty piece, or neither the
first nor the last is empty. -/
lemma ends_of_fit {source : String} {p : Pattern} (hp : compile source = .ok p) {vs : List String}
    (hfit : Segment.Fit p.segments vs) :
    vs = [""] ∨ (vs.head? ≠ some "" ∧ vs.getLast? ≠ some "") := by
  obtain ⟨-, hspells⟩ := compile_eq_ok_iff.mp hp
  have hempty := Segment.eq_empty_iff_of_fit hspells hfit
  rcases Text.splitOn_trimEnds_ends '/' source.toList with hroot | ⟨hfirst, hlast⟩
  · left
    have hcut : cut source = [[]] := hroot
    rw [hcut] at hempty
    obtain ⟨v, rest, hv, hrest, rfl⟩ := List.forall₂_cons_left_iff.mp hempty
    rw [hv.mpr rfl, List.forall₂_nil_left_iff.mp hrest]
  · right
    constructor
    · intro hhead
      obtain ⟨rest, rfl⟩ := List.head?_eq_some_iff.mp hhead
      obtain ⟨cs, pieces, hcs, -, hcut⟩ := List.forall₂_cons_right_iff.mp hempty
      rw [hcs.mp rfl] at hcut
      exact hfirst (List.head?_eq_some_iff.mpr ⟨pieces, hcut⟩)
    · intro hend
      rw [List.getLast?_eq_head?_reverse] at hend
      obtain ⟨rest, hrest⟩ := List.head?_eq_some_iff.mp hend
      have hreverse := List.forall₂_reverse_iff.mpr hempty
      rw [hrest] at hreverse
      obtain ⟨cs, pieces, hcs, -, hcut⟩ := List.forall₂_cons_right_iff.mp hreverse
      rw [hcs.mp rfl] at hcut
      refine hlast ?_
      rw [List.getLast?_eq_head?_reverse]
      exact List.head?_eq_some_iff.mpr ⟨pieces, hcut⟩

/-- Apart from the root, a compiled pattern accepts no path with a slash at its end, with two at its
beginning, or with none there. -/
theorem isAnchored_of_accepts {source : String} {p : Pattern} (hp : compile source = .ok p)
    {path : String} (h : p.accepts path = true) (hroot : path ≠ "/") : IsAnchored path := by
  obtain ⟨hfree, vs, hfit, rfl⟩ := accepts_iff.mp h
  obtain ⟨hne, hslash⟩ := hfree.pieces hfit
  have hvs : vs ≠ [""] := by
    rintro rfl
    exact hroot pathOf_empty
  obtain ⟨hfirst, hlast⟩ := (ends_of_fit hp hfit).resolve_left hvs
  let rest : List Char := Text.joinWith '/' (vs.map String.toList)
  have hpath : (pathOf vs).toList = '/' :: rest := String.toList_ofList
  have hpieces : Text.splitOn '/' rest = vs.map String.toList :=
    Text.splitOn_joinWith (by simpa using hne) (by simpa using hslash)
  have hempty : ∀ v? : Option String, v?.map String.toList = some [] → v? = some "" := by
    intro v? hv
    obtain ⟨v, rfl, hnil⟩ := Option.map_eq_some_iff.mp hv
    rw [String.toList_eq_nil_iff.mp hnil]
  constructor
  · rw [hpath, List.head?_cons]
  · intro htwo
    rw [hpath] at htwo
    obtain ⟨more, hmore⟩ := (List.cons_prefix_cons.mp htwo).2
    have hrest : rest = '/' :: more := hmore.symm
    have hpiece := Text.head?_splitOn_cons '/' more
    rw [← hrest, hpieces, List.head?_map] at hpiece
    exact hfirst (hempty _ hpiece)
  · intro hend
    have hpiece : (Text.splitOn '/' rest).getLast? = some [] := by
      rcases List.eq_nil_or_concat' rest with hnil | ⟨more, c, hmore⟩
      · rw [hnil]
        rfl
      · rw [hpath, hmore, ← List.cons_append, List.getLast?_concat, Option.some_inj] at hend
        rw [hmore, hend]
        exact Text.getLast?_splitOn_concat '/' more
    rw [hpieces, List.getLast?_map] at hpiece
    exact hlast (hempty _ hpiece)

/-- The root is accepted by the patterns that consist of slashes. -/
theorem accepts_root_iff {source : String} {p : Pattern} (hp : compile source = .ok p) :
    p.accepts "/" = true ↔ ∀ c ∈ source.toList, c = '/' := by
  have hfree : p.IsSlashFree := isSlashFree_of_compile hp
  obtain ⟨-, hspells⟩ := compile_eq_ok_iff.mp hp
  have hpieces : p.accepts "/" = true ↔ Segment.Fit p.segments [""] := by
    rw [accepts_iff]
    constructor
    · rintro ⟨-, vs, hfit, hpath⟩
      obtain ⟨hne, hslash⟩ := hfree.pieces hfit
      have hvs : [""] = vs := pathOf_injective (by simp) hne (by simp) hslash hpath
      rw [hvs]
      exact hfit
    · intro hfit
      exact ⟨hfree, [""], hfit, pathOf_empty.symm⟩
  rw [hpieces, ← cut_eq_singleton_nil_iff]
  constructor
  · intro hfit
    have hempty := Segment.eq_empty_iff_of_fit hspells hfit
    obtain ⟨cs, pieces, hcs, hrest, hcut⟩ := List.forall₂_cons_right_iff.mp hempty
    rw [hcut, hcs.mp rfl, List.forall₂_nil_right_iff.mp hrest]
  · intro hcut
    rw [hcut] at hspells
    obtain ⟨s, rest, hs, hrest, hsegments⟩ := List.forall₂_cons_left_iff.mp hspells
    rw [hsegments, List.forall₂_nil_left_iff.mp hrest]
    exact Segment.fit_cons.mpr ⟨(Segment.accepts_empty_iff hs).mpr rfl, Segment.fit_nil⟩

end Pattern

end PathRouter
