import Mathlib.Data.List.Basic
import Mathlib.Data.List.TakeWhile
import Mathlib.Tactic.Common
import PathRouter.Pattern.Grammar

/-!
# Reading a segment follows its spelling

`Spells` is the grammar of segments.  Here it gets a counterpart for the texts that spell nothing,
`Faults`, which says for each of them what is wrong, and the reader of segments is shown to follow
both: it succeeds on the texts that are spelled (`parse_eq_ok_iff`) and fails on the others with
their fault (`parse_eq_error_iff`).

A text is of one of four sorts: it does not start with a colon, it leaves ASCII, it has not the
shape of a parameter, or it has that shape with some word for the kind.  The reader has one equation
for each sort, and both statements go through these equations.
-/

namespace PathRouter.Segment

/-- A text of the shape `:name(kind)`, where any word, also an empty one, may stand for the kind. -/
def IsParamShape (cs name kind : List Char) : Prop :=
  cs = ':' :: name ++ '(' :: kind ++ [')'] ∧ IsWord name ∧ ∀ c ∈ kind, IsNameChar c

/-- `Faults cs f` holds if `cs` starts with a colon, spells no parameter, and `f` is why. -/
inductive Faults : List Char → Fault → Prop where
  /-- A character outside ASCII outranks everything else. -/
  | notAscii {cs : List Char} (head : cs.head? = some ':') (outside : ∃ c ∈ cs, 0x80 ≤ c.toNat) :
      Faults cs .notAscii
  /-- The shape is right, but the word in parentheses is no keyword. -/
  | unsupportedKind {cs name kind : List Char} (shape : IsParamShape cs name kind)
      (unknown : ∀ k : ParamKind, k.keyword.toList ≠ kind) :
      Faults cs (.unsupportedKind (String.ofList kind))
  /-- The text is ASCII and does not have the shape of a parameter. -/
  | malformed {cs : List Char} (head : cs.head? = some ':') (ascii : ∀ c ∈ cs, c.toNat < 0x80)
      (shape : ¬∃ name kind, IsParamShape cs name kind) : Faults cs .malformed

/-! ### Words -/

lemma toNat_of_isNameChar {c : Char} (h : IsNameChar c) :
    0x30 ≤ c.toNat ∧ c.toNat < 0x7f ∧ c.toNat ≠ 0x5c := by
  simp only [IsNameChar, Char.le_def, UInt32.le_iff_toNat_le, ← Char.toNat_inj, Char.toNat_val,
    Char.reduceToNat] at h
  omega

/-- The keywords are words. -/
lemma isNameChar_of_mem_keyword {k : ParamKind} {c : Char} (h : c ∈ k.keyword.toList) :
    IsNameChar c := by
  have hword : IsWord k.keyword.toList := by
    cases k <;> decide
  exact hword.2 c h

/-- Texts of the shape of a parameter are ASCII. -/
lemma IsParamShape.ascii {cs name kind : List Char} (h : IsParamShape cs name kind) :
    ∀ c ∈ cs, c.toNat < 0x80 := by
  obtain ⟨rfl, ⟨-, hname⟩, hkind⟩ := h
  intro c hc
  have hword : IsNameChar c → c.toNat < 0x80 := fun hw =>
    Nat.lt_succ_of_lt (toNat_of_isNameChar hw).2.1
  simp only [List.cons_append, List.append_assoc, List.mem_cons, List.mem_append,
    List.not_mem_nil, or_false] at hc
  rcases hc with rfl | hc | rfl | hc | rfl
  · decide
  · exact hword (hname c hc)
  · decide
  · exact hword (hkind c hc)
  · decide

/-- A word ends where another character follows it. -/
lemma takeWhile_word_append {word : List Char} (h : ∀ c ∈ word, IsNameChar c) {stop : Char}
    (hstop : ¬IsNameChar stop) (rest : List Char) :
    (word ++ stop :: rest).takeWhile isWordChar = word := by
  have hword : ∀ c ∈ word, isWordChar c = true := fun c hc => isWordChar_iff.mpr (h c hc)
  rw [List.takeWhile_append_of_pos hword, List.takeWhile_cons_of_neg (by rwa [isWordChar_iff]),
    List.append_nil]

lemma dropWhile_word_append {word : List Char} (h : ∀ c ∈ word, IsNameChar c) {stop : Char}
    (hstop : ¬IsNameChar stop) (rest : List Char) :
    (word ++ stop :: rest).dropWhile isWordChar = stop :: rest := by
  have hword : ∀ c ∈ word, isWordChar c = true := fun c hc => isWordChar_iff.mpr (h c hc)
  rw [List.dropWhile_append_of_pos hword, List.dropWhile_cons_of_neg (by rwa [isWordChar_iff])]

/-- A text of the right shape is split into its name and its kind, and no other text is split. -/
theorem splitParam?_eq_some_iff {cs name kind : List Char} :
    splitParam? cs = some (name, kind) ↔ IsParamShape cs name kind := by
  constructor
  · intro h
    unfold splitParam? at h
    split at h
    · rename_i cs
      dsimp only at h
      split at h
      · rename_i ds hds
        split at h
        · rename_i hshape
          obtain ⟨hne, hclose⟩ := hshape
          rw [Option.some_inj, Prod.mk.injEq] at h
          obtain ⟨rfl, rfl⟩ := h
          refine ⟨?_, ⟨hne, fun c hc => isWordChar_iff.mp (List.mem_takeWhile_imp hc)⟩,
            fun c hc => isWordChar_iff.mp (List.mem_takeWhile_imp hc)⟩
          have hcs := List.takeWhile_append_dropWhile (p := isWordChar) (l := cs)
          have hks := List.takeWhile_append_dropWhile (p := isWordChar) (l := ds)
          rw [hclose] at hks
          rw [hds, ← hks] at hcs
          simpa using hcs.symm
        · simp at h
      · simp at h
    · simp at h
  · rintro ⟨rfl, ⟨hne, hname⟩, hkind⟩
    have hcs : ':' :: name ++ '(' :: kind ++ [')'] = ':' :: (name ++ '(' :: (kind ++ [')'])) := by
      simp
    rw [hcs]
    simp only [splitParam?, takeWhile_word_append hname (by decide : ¬IsNameChar '('),
      dropWhile_word_append hname (by decide : ¬IsNameChar '('),
      takeWhile_word_append hkind (by decide : ¬IsNameChar ')'),
      dropWhile_word_append hkind (by decide : ¬IsNameChar ')'), ne_eq, hne,
      not_false_eq_true, and_self, if_true]

/-- Each keyword has one kind. -/
lemma ofKeyword?_eq_some_iff {w : String} {k : ParamKind} :
    ParamKind.ofKeyword? w = some k ↔ k.keyword = w := by
  constructor
  · intro h
    simpa using List.find?_some h
  · rintro rfl
    exact ParamKind.ofKeyword?_keyword k

/-! ### The four sorts of texts -/

lemma parse_of_head_ne {cs : List Char} (h : cs.head? ≠ some ':') :
    parse cs = .ok (.literal (String.ofList cs)) := by
  rw [parse, if_neg h]

lemma parse_of_outside {cs : List Char} (head : cs.head? = some ':')
    (h : ∃ c ∈ cs, 0x80 ≤ c.toNat) : parse cs = .error .notAscii := by
  obtain ⟨c, hc, hle⟩ := h
  have hall : (!cs.all fun c => c.toNat < 0x80) = true := by
    simpa using ⟨c, hc, hle⟩
  rw [parse, if_pos head, if_pos hall]

lemma parse_of_no_shape {cs : List Char} (head : cs.head? = some ':')
    (ascii : ∀ c ∈ cs, c.toNat < 0x80) (h : ¬∃ name kind, IsParamShape cs name kind) :
    parse cs = .error .malformed := by
  have hall : ¬(!cs.all fun c => c.toNat < 0x80) = true := by
    simpa using ascii
  have hsplit : splitParam? cs = none := by
    rw [Option.eq_none_iff_forall_ne_some]
    rintro ⟨name, kind⟩ hsome
    exact h ⟨name, kind, splitParam?_eq_some_iff.mp hsome⟩
  rw [parse, if_pos head, if_neg hall, hsplit]

lemma parse_of_shape {cs name kind : List Char} (h : IsParamShape cs name kind) :
    parse cs = match ParamKind.ofKeyword? (String.ofList kind) with
      | none => .error (.unsupportedKind (String.ofList kind))
      | some k => .ok (.param (String.ofList name) k) := by
  have head : cs.head? = some ':' := by
    rw [h.1]
    rfl
  have hall : ¬(!cs.all fun c => c.toNat < 0x80) = true := by
    simpa using h.ascii
  have hsplit : splitParam? cs = some (name, kind) := splitParam?_eq_some_iff.mpr h
  unfold parse
  cases hkind : ParamKind.ofKeyword? (String.ofList kind) with
  | none => simp only [if_pos head, if_neg hall, hsplit, hkind]
  | some k => simp only [if_pos head, if_neg hall, hsplit, hkind]

/-! ### The reader and the grammar -/

/-- The reader finds either a segment that is spelled or a fault that is there. -/
lemma parse_spells_or_faults (cs : List Char) :
    (∃ s, parse cs = .ok s ∧ Spells cs s) ∨ ∃ f, parse cs = .error f ∧ Faults cs f := by
  by_cases head : cs.head? = some ':'
  · by_cases outside : ∃ c ∈ cs, 0x80 ≤ c.toNat
    · exact .inr ⟨_, parse_of_outside head outside, .notAscii head outside⟩
    · by_cases shape : ∃ name kind, IsParamShape cs name kind
      · obtain ⟨name, kind, hshape⟩ := shape
        have hparse := parse_of_shape hshape
        cases hk : ParamKind.ofKeyword? (String.ofList kind) with
        | none =>
          rw [hk] at hparse
          refine .inr ⟨_, hparse, .unsupportedKind hshape ?_⟩
          rintro k rfl
          simp at hk
        | some k =>
          rw [hk] at hparse
          rw [ofKeyword?_eq_some_iff] at hk
          have hkind : kind = k.keyword.toList := by simp [hk]
          subst hkind
          obtain ⟨rfl, word, -⟩ := hshape
          exact .inl ⟨_, hparse, .param k word⟩
      · have ascii : ∀ c ∈ cs, c.toNat < 0x80 := by simpa using outside
        exact .inr ⟨_, parse_of_no_shape head ascii shape, .malformed head ascii shape⟩
  · exact .inl ⟨_, parse_of_head_ne head, .literal head⟩

lemma parse_of_spells {cs : List Char} {s : Segment} (h : Spells cs s) : parse cs = .ok s := by
  cases h with
  | literal head => exact parse_of_head_ne head
  | @param name k word =>
    have hshape : IsParamShape (':' :: name ++ '(' :: k.keyword.toList ++ [')']) name
        k.keyword.toList := ⟨rfl, word, fun c hc => isNameChar_of_mem_keyword hc⟩
    rw [parse_of_shape hshape, String.ofList_toList, ParamKind.ofKeyword?_keyword]

lemma parse_of_faults {cs : List Char} {f : Fault} (h : Faults cs f) : parse cs = .error f := by
  cases h with
  | notAscii head outside => exact parse_of_outside head outside
  | @unsupportedKind name kind shape unknown =>
    have hnone : ParamKind.ofKeyword? (String.ofList kind) = none := by
      rw [Option.eq_none_iff_forall_ne_some]
      intro k hk
      rw [ofKeyword?_eq_some_iff] at hk
      exact unknown k (by simp [hk])
    rw [parse_of_shape shape, hnone]
  | malformed head ascii shape => exact parse_of_no_shape head ascii shape

/-- The reader succeeds exactly on the texts that spell a segment. -/
theorem parse_eq_ok_iff {cs : List Char} {s : Segment} : parse cs = .ok s ↔ Spells cs s := by
  refine ⟨fun h => ?_, parse_of_spells⟩
  rcases parse_spells_or_faults cs with ⟨t, ht, hspells⟩ | ⟨f, hf, -⟩
  · rw [ht, Except.ok.injEq] at h
    exact h ▸ hspells
  · rw [hf] at h
    simp at h

/-- The reader fails exactly on the other texts, with what is wrong with them. -/
theorem parse_eq_error_iff {cs : List Char} {f : Fault} : parse cs = .error f ↔ Faults cs f := by
  refine ⟨fun h => ?_, parse_of_faults⟩
  rcases parse_spells_or_faults cs with ⟨s, hs, -⟩ | ⟨g, hg, hfaults⟩
  · rw [hs] at h
    simp at h
  · rw [hg, Except.error.injEq] at h
    exact h ▸ hfaults

/-- A text spells a segment unless it has a fault. -/
lemma exists_spells_iff_not_faults {cs : List Char} :
    (∃ s, Spells cs s) ↔ ¬∃ f, Faults cs f := by
  simp only [← parse_eq_ok_iff, ← parse_eq_error_iff]
  cases parse cs <;> simp

/-! ### The reason in words -/

/-- Words need no escapes between quotes. -/
lemma quote_word {word : List Char} (h : ∀ c ∈ word, IsNameChar c) :
    Text.quote (String.ofList word) = "'" ++ String.ofList word ++ "'" := by
  have hmark : Text.quoteMark word = '\x27' := by
    have hmem : '\x27' ∉ word := fun hm => absurd (h _ hm) (by decide)
    rw [Text.quoteMark, if_neg fun hand => hmem hand.1]
  have hchar : ∀ c ∈ word, Text.quoteChar Text.isPrintable '\x27' c = [c] := by
    intro c hc
    obtain ⟨hlow, hhigh, hback⟩ := toNat_of_isNameChar (h c hc)
    have hne : ∀ d : Char, d.toNat < 0x30 ∨ d.toNat = 0x5c → c ≠ d := by
      rintro d hd rfl
      omega
    have hprint : Text.isPrintable c = true := by
      rw [Text.isPrintable, if_pos hhigh]
      simp only [decide_eq_true_eq]
      omega
    rw [Text.quoteChar, if_neg, if_neg, if_neg, if_neg, if_pos hprint]
    · exact hne '\t' (by decide)
    · exact hne '\r' (by decide)
    · exact hne '\n' (by decide)
    · rintro (heq | heq)
      · exact hne '\x27' (by decide) heq
      · exact hne '\\' (by decide) heq
  have hbody : word.flatMap (Text.quoteChar Text.isPrintable '\x27') = word := by
    rw [List.flatMap_congr hchar, List.flatMap_singleton']
  rw [Text.quote, Text.quoteWith]
  simp only [String.toList_ofList, hmark, hbody]
  apply String.toList_inj.mp
  simp

/-- The reason names the word that is no keyword, and the keywords. -/
theorem reason_unsupportedKind {kind : List Char} (h : ∀ c ∈ kind, IsNameChar c) :
    (Fault.unsupportedKind (String.ofList kind)).reason =
      "unsupported parameter type '" ++ String.ofList kind ++ "' (supported: int, string)" := by
  have hall : ", ".intercalate (ParamKind.all.map ParamKind.keyword) = "int, string" := by
    decide +kernel
  unfold Fault.reason
  dsimp only
  rw [hall, quote_word h]
  apply String.toList_inj.mp
  simp

end PathRouter.Segment
