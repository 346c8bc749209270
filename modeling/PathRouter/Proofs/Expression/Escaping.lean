import Mathlib.Tactic.Common
import PathRouter.Expression.Groups
import PathRouter.Text.Pieces

/-!
# What escaping keeps

Escaping a literal text loses nothing, however many backslashes the text holds
(`Expression.escape_is_decodable`).  The backslashes that it adds are told from those of the text by
reading from left to right: each takes a metacharacter, and no metacharacter stands without one
(`Expression.Mark.IsLiteral`).

The slash is no metacharacter.  It is kept where it is (`Expression.count_slash_escape`), so a text
can be escaped before or after it is cut into pieces (`Expression.splitOn_escape`).
-/

namespace PathRouter.Expression

/-! ### Marks of a text -/

/-- A text that can be read is built up from its end: an escaped character or a plain one is put in
front of what was read. -/
theorem marks?_induction {motive : List Char → List Mark → Prop} (nil : motive [] [])
    (escaped : ∀ c cs ms, motive cs ms → motive ('\\' :: c :: cs) (.escaped c :: ms))
    (plain : ∀ c cs ms, c ≠ '\\' → motive cs ms → motive (c :: cs) (.plain c :: ms))
    {cs : List Char} {ms : List Mark} (h : marks? cs = some ms) : motive cs ms := by
  induction cs using marks?.induct generalizing ms with
  | case1 =>
    obtain rfl : [] = ms := Option.some_inj.mp h
    exact nil
  | case2 => simp [marks?] at h
  | case3 c cs ih =>
    rw [marks?] at h
    obtain ⟨rest, hrest, rfl⟩ := Option.map_eq_some_iff.mp h
    exact escaped c cs rest (ih hrest)
  | case4 c cs hend htakes ih =>
    have hc : c ≠ '\\' := by
      rintro rfl
      cases cs with
      | nil => exact hend rfl rfl
      | cons d ds => exact htakes d ds rfl rfl
    rw [marks?_cons_of_ne hc] at h
    obtain ⟨rest, hrest, rfl⟩ := Option.map_eq_some_iff.mp h
    exact plain c cs rest hc (ih hrest)

/-- A reading leaves nothing out. -/
lemma flatMap_text_of_marks? {cs : List Char} {ms : List Mark} (h : marks? cs = some ms) :
    ms.flatMap Mark.text = cs := by
  refine marks?_induction (motive := fun cs ms => ms.flatMap Mark.text = cs) rfl ?_ ?_ h
  · intro c cs ms ih
    rw [List.flatMap_cons, ih]
    rfl
  · intro c cs ms _ ih
    rw [List.flatMap_cons, ih]
    rfl

/-- An escaped text alone is read as its characters. -/
lemma marks?_escape_self (cs : List Char) : marks? (escape cs) = some (cs.map Mark.ofChar) := by
  have hread := marks?_escape cs []
  rw [List.append_nil] at hread
  simpa [marks?] using hread

/-- In a literal text a backslash stands before the metacharacters, and only before them. -/
def Mark.IsLiteral : Mark → Prop
  | plain c => ¬IsMetacharacter c
  | escaped c => IsMetacharacter c

lemma Mark.isLiteral_ofChar (c : Char) : (Mark.ofChar c).IsLiteral := by
  unfold Mark.ofChar
  split
  · rename_i h
    exact isMeta_iff.mp h
  · rename_i h
    exact fun hmeta => h (isMeta_iff.mpr hmeta)

/-- The slash is shown plainly, and nothing else is shown so. -/
lemma Mark.ofChar_eq_slash_iff {c : Char} : Mark.ofChar c = .plain '/' ↔ c = '/' := by
  constructor
  · intro h
    have hchar := congrArg Mark.char h
    rwa [Mark.char_ofChar] at hchar
  · rintro rfl
    rfl

/-! ### Slashes -/

/-- Escaping keeps the number of slashes. -/
theorem count_slash_escape (cs : List Char) : (escape cs).count '/' = cs.count '/' := by
  induction cs with
  | nil => rfl
  | cons c cs ih =>
    have hchar : (escapeChar c).count '/' = [c].count '/' := by
      unfold escapeChar
      split
      · rw [List.count_cons_of_ne (by decide)]
      · rfl
    have hcons : escape (c :: cs) = escapeChar c ++ escape cs := rfl
    rw [hcons, List.count_append, hchar, ih, ← List.count_append, List.singleton_append]

/-- An escaped text holds a slash when the text does. -/
lemma slash_mem_escape_iff {cs : List Char} : '/' ∈ escape cs ↔ '/' ∈ cs := by
  rw [← List.count_pos_iff, count_slash_escape, List.count_pos_iff]

/-- Escaping goes through the slashes between pieces. -/
lemma escape_joinWith (ps : List (List Char)) :
    escape (Text.joinWith '/' ps) = Text.joinWith '/' (ps.map escape) := by
  induction ps with
  | nil => rfl
  | cons p ps ih =>
    cases ps with
    | nil => rfl
    | cons q ps =>
      have hslash : ∀ cs, escape ('/' :: cs) = '/' :: escape cs := fun _ => rfl
      rw [Text.joinWith, escape_append, hslash, ih]
      rfl

/-- The pieces of an escaped text are the escaped pieces. -/
theorem splitOn_escape (cs : List Char) :
    Text.splitOn '/' (escape cs) = (Text.splitOn '/' cs).map escape := by
  have hjoined : escape cs = Text.joinWith '/' ((Text.splitOn '/' cs).map escape) := by
    rw [← escape_joinWith, Text.joinWith_splitOn]
  have hne : (Text.splitOn '/' cs).map escape ≠ [] := by
    simpa using Text.splitOn_ne_nil '/' cs
  have hfree : ∀ p ∈ (Text.splitOn '/' cs).map escape, '/' ∉ p := by
    intro p hp
    obtain ⟨q, hq, rfl⟩ := List.mem_map.mp hp
    exact fun h => Text.not_mem_of_mem_splitOn hq (slash_mem_escape_iff.mp h)
  rw [hjoined]
  exact Text.splitOn_joinWith hne hfree

/-! ### All together -/

/-- **Escaping loses nothing.**  Texts are escaped piece by piece.  Without the escaping backslashes
an escaped text is the text itself, so different texts are escaped differently.  A reading covers
the whole escaped text; in it each metacharacter is an escaping backslash or taken by one, such a
backslash takes nothing else, and slashes stand where they stood.  Cutting at slashes therefore
gives the escaped pieces. -/
theorem escape_is_decodable :
    (∀ a b : List Char, escape (a ++ b) = escape a ++ escape b) ∧
    (∀ a : List Char, unescape? (escape a) = some a) ∧ Function.Injective escape ∧
    (∀ a : List Char, ∃ ms, marks? (escape a) = some ms ∧ ms.flatMap Mark.text = escape a ∧
      (∀ m ∈ ms, m.IsLiteral) ∧ ∀ i : Nat, ms[i]? = some (.plain '/') ↔ a[i]? = some '/') ∧
    ∀ a : List Char, (escape a).count '/' = a.count '/' ∧
      Text.splitOn '/' (escape a) = (Text.splitOn '/' a).map escape := by
  refine ⟨escape_append, unescape?_escape, ?_, ?_,
    fun a => ⟨count_slash_escape a, splitOn_escape a⟩⟩
  · intro a b h
    have hread := unescape?_escape a
    rw [h, unescape?_escape, Option.some_inj] at hread
    exact hread.symm
  · intro a
    have hread := marks?_escape_self a
    refine ⟨a.map Mark.ofChar, hread, flatMap_text_of_marks? hread, ?_, ?_⟩
    · intro m hm
      obtain ⟨c, -, rfl⟩ := List.mem_map.mp hm
      exact Mark.isLiteral_ofChar c
    · intro i
      rw [List.getElem?_map]
      constructor
      · intro h
        obtain ⟨c, hc, hslash⟩ := Option.map_eq_some_iff.mp h
        rw [hc, Mark.ofChar_eq_slash_iff.mp hslash]
      · intro h
        rw [h]
        rfl

/-- Of the five backslashes in a row two are those of the text and the others escape them and the
parenthesis.  The last one is escaped too and takes nothing that may follow. -/
theorem escape_is_decodable_backslashes :
    let a : List Char := ['\\', '\\', '(', '/', 'd', '\\']
    escape a = ['\\', '\\', '\\', '\\', '\\', '(', '/', 'd', '\\', '\\'] ∧
    unescape? (escape a) = some a ∧
    Text.splitOn '/' (escape a) =
      [['\\', '\\', '\\', '\\', '\\', '('], ['d', '\\', '\\']] ∧
    ∃ ms, marks? (escape a) = some ms ∧ ms[3]? = some (.plain '/') ∧
      .escaped '(' ∈ ms ∧ (Mark.escaped '(').IsLiteral := by
  intro a
  obtain ⟨-, hback, -, hread, hslash⟩ := escape_is_decodable
  obtain ⟨ms, hms, -, hliteral, hplaces⟩ := hread a
  have hmarks : ms = [.escaped '\\', .escaped '\\', .escaped '(', .plain '/', .plain 'd',
      .escaped '\\'] :=
    Option.some_inj.mp (hms.symm.trans (by decide))
  have hparenthesis : .escaped '(' ∈ ms := by
    rw [hmarks]
    decide
  exact ⟨by decide, hback a, (hslash a).2.trans (by decide), ms, hms, (hplaces 3).mpr rfl,
    hparenthesis, hliteral _ hparenthesis⟩

end PathRouter.Expression
