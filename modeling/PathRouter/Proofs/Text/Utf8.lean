import Mathlib.Algebra.Group.Nat.Defs
import Mathlib.Data.List.Infix
import PathRouter.Text.Utf8

/-!
# What decoding gives

The first character of some bytes is the one whose encoding they start with
(`nextChar?_eq_some_iff`).  Decoding therefore splits its bytes into the encoding of a text and bytes
that start with the encoding of no character (`decodeUtf8_eq_iff`), and nothing is left exactly if
the bytes are the encoding of a text (`decodeUtf8_snd_eq_nil_iff`).
-/

namespace PathRouter.Text

/-- The bytes of a text. -/
def encodeUtf8 (cs : List Char) : List UInt8 := cs.flatMap String.utf8EncodeChar

/-- Whether bytes are the encoding of a text. -/
def IsUtf8 (bs : List UInt8) : Prop := ∃ cs, bs = encodeUtf8 cs

/-- Whether bytes start with the encoding of a character. -/
def StartsChar (bs : List UInt8) : Prop := ∃ c, String.utf8EncodeChar c <+: bs

@[simp] lemma encodeUtf8_nil : encodeUtf8 [] = [] := rfl

@[simp] lemma encodeUtf8_cons (c : Char) (cs : List Char) :
    encodeUtf8 (c :: cs) = String.utf8EncodeChar c ++ encodeUtf8 cs := rfl

/-! ### Trailing bytes -/

/-- The `k` trailing bytes of a code point. -/
def trail (n : Nat) : Nat → List UInt8
  | 0 => []
  | k + 1 => UInt8.ofNat (n / 64 ^ k % 64 + 0x80) :: trail n k

lemma trailBits?_eq_some_iff {b : UInt8} {t : Nat} :
    trailBits? b = some t ↔ t < 64 ∧ b = UInt8.ofNat (t + 0x80) := by
  have hlt := b.toNat_lt
  unfold trailBits?
  simp only [UInt8.le_iff_toNat_le, UInt8.lt_iff_toNat_lt, UInt8.reduceToNat, ← UInt8.toNat_inj,
    UInt8.toNat_ofNat']
  split
  · rw [Option.some_inj]
    omega
  · simp only [reduceCtorEq, false_iff]
    omega

/-- What is read after the bits `n` is the code point that continues them. -/
lemma readTrail_eq_some_iff {n k code : Nat} {bs rest : List UInt8} :
    readTrail n k bs = some (code, rest) ↔ code / 64 ^ k = n ∧ bs = trail code k ++ rest := by
  induction k generalizing n bs with
  | zero => simp [readTrail, trail, eq_comm]
  | succ k ih =>
    have hdiv : code / 64 ^ (k + 1) = code / 64 ^ k / 64 := by
      rw [Nat.pow_succ, Nat.div_div_eq_div_mul]
    rw [hdiv]
    cases bs with
    | nil => simp [readTrail, trail]
    | cons b bs =>
      rw [trail, List.cons_append, List.cons.injEq, readTrail]
      cases h : trailBits? b with
      | none =>
        simp only [reduceCtorEq, false_iff]
        rintro ⟨-, hb, -⟩
        have := trailBits?_eq_some_iff.mpr ⟨Nat.mod_lt (code / 64 ^ k) (by omega), hb⟩
        simp [h] at this
      | some t =>
        obtain ⟨ht, rfl⟩ := trailBits?_eq_some_iff.mp h
        simp only [ih]
        refine ⟨fun ⟨hcode, hbs⟩ => ⟨by omega, ?_, hbs⟩, fun ⟨hcode, hb, hbs⟩ => ⟨?_, hbs⟩⟩
        · have hmod : code / 64 ^ k % 64 = t := by omega
          rw [hmod]
        · have hmod := Nat.mod_lt (code / 64 ^ k) (show 64 > 0 by omega)
          rw [← UInt8.toNat_inj, UInt8.toNat_ofNat', UInt8.toNat_ofNat'] at hb
          omega

/-! ### Characters -/

lemma toNat_ofNat {n : Nat} (h : n.isValidChar) : (Char.ofNat n).toNat = n := by
  rw [Char.ofNat, dif_pos h]
  rfl

lemma isEncodedIn_one_iff {n : Nat} : isEncodedIn 1 n = true ↔ 0x80 ≤ n ∧ n < 0x800 := by
  simp [isEncodedIn]

lemma isEncodedIn_two_iff {n : Nat} :
    isEncodedIn 2 n = true ↔ (0x800 ≤ n ∧ n < 0xd800) ∨ (0xe000 ≤ n ∧ n < 0x10000) := by
  simp [isEncodedIn]

lemma isEncodedIn_three_iff {n : Nat} : isEncodedIn 3 n = true ↔ 0x10000 ≤ n ∧ n < 0x110000 := by
  simp [isEncodedIn]

lemma isValidChar_of_isEncodedIn {k n : Nat} (h : isEncodedIn k n = true) : n.isValidChar := by
  unfold isEncodedIn at h
  unfold Nat.isValidChar
  split at h <;> simp only [Bool.and_eq_true, Bool.or_eq_true, decide_eq_true_eq] at h <;> omega

/-- A character that is read has just the trailing bytes that were read. -/
lemma readChar_eq_some_iff {bits k : Nat} {bs rest : List UInt8} {c : Char} :
    (match readTrail bits k bs with
      | none => none
      | some (code, rest) => if isEncodedIn k code then some (Char.ofNat code, rest) else none) =
        some (c, rest) ↔
      isEncodedIn k c.toNat = true ∧ c.toNat / 64 ^ k = bits ∧ bs = trail c.toNat k ++ rest := by
  constructor
  · intro h
    split at h
    · simp at h
    · rename_i code rest' hread
      split at h
      · rename_i hencoded
        obtain ⟨hc, rfl⟩ := Prod.mk.inj (Option.some.inj h)
        rw [← hc, toNat_ofNat (isValidChar_of_isEncodedIn hencoded)]
        exact ⟨hencoded, readTrail_eq_some_iff.mp hread⟩
      · simp at h
  · rintro ⟨hencoded, hread⟩
    rw [readTrail_eq_some_iff.mpr hread]
    simp only [hencoded, if_true, Char.ofNat_toNat]

/-- The encoding of a character, by the number of its trailing bytes. -/
lemma utf8EncodeChar_eq (c : Char) :
    String.utf8EncodeChar c =
      if c.toNat < 0x80 then [UInt8.ofNat c.toNat]
      else if c.toNat < 0x800 then UInt8.ofNat (c.toNat / 64 ^ 1 + 0xc0) :: trail c.toNat 1
      else if c.toNat < 0x10000 then UInt8.ofNat (c.toNat / 64 ^ 2 + 0xe0) :: trail c.toNat 2
      else UInt8.ofNat (c.toNat / 64 ^ 3 + 0xf0) :: trail c.toNat 3 := by
  have hvalid : c.toNat < 0x110000 := by
    rcases c.valid with h | h
    · exact Nat.lt_trans h (by omega)
    · exact h.2
  unfold String.utf8EncodeChar
  simp only [Char.toNat, trail, Nat.pow_zero, Nat.div_one, Nat.reducePow] at hvalid ⊢
  generalize c.val.toNat = n at hvalid ⊢
  by_cases h1 : n < 0x80
  · rw [if_pos h1, if_pos (by omega)]
  by_cases h2 : n < 0x800
  · rw [if_neg h1, if_pos h2, if_neg (by omega), if_pos (by omega), Nat.mod_eq_of_lt (by omega)]
  by_cases h3 : n < 0x10000
  · rw [if_neg h1, if_neg h2, if_pos h3, if_neg (by omega), if_neg (by omega), if_pos (by omega),
      Nat.mod_eq_of_lt (show n / 4096 < 16 by omega)]
  · rw [if_neg h1, if_neg h2, if_neg h3, if_neg (by omega), if_neg (by omega), if_neg (by omega),
      Nat.mod_eq_of_lt (show n / 262144 < 8 by omega)]

/-- A character is read from its encoding. -/
lemma nextChar?_utf8EncodeChar_append (c : Char) (rest : List UInt8) :
    nextChar? (String.utf8EncodeChar c ++ rest) = some (c, rest) := by
  have hvalid := c.valid
  change c.toNat.isValidChar at hvalid
  unfold Nat.isValidChar at hvalid
  rw [utf8EncodeChar_eq]
  split_ifs with h1 h2 h3
  · simp only [List.cons_append, List.nil_append, nextChar?, UInt8.toNat_ofNat']
    rw [Nat.mod_eq_of_lt (by omega), if_pos h1, Char.ofNat_toNat]
  · simp only [List.cons_append, nextChar?, UInt8.toNat_ofNat']
    rw [Nat.mod_eq_of_lt (by omega), if_neg (by omega), if_neg (by omega), if_pos (by omega)]
    exact readChar_eq_some_iff.mpr ⟨isEncodedIn_one_iff.mpr (by omega), by omega, rfl⟩
  · simp only [List.cons_append, nextChar?, UInt8.toNat_ofNat']
    rw [Nat.mod_eq_of_lt (by omega), if_neg (by omega), if_neg (by omega), if_neg (by omega),
      if_pos (by omega)]
    exact readChar_eq_some_iff.mpr ⟨isEncodedIn_two_iff.mpr (by omega), by omega, rfl⟩
  · simp only [List.cons_append, nextChar?, UInt8.toNat_ofNat']
    rw [Nat.mod_eq_of_lt (by omega), if_neg (by omega), if_neg (by omega), if_neg (by omega),
      if_neg (by omega), if_pos (by omega)]
    exact readChar_eq_some_iff.mpr ⟨isEncodedIn_three_iff.mpr (by omega), by omega, rfl⟩

/-- Bytes from which a character is read start with its encoding. -/
lemma eq_append_of_nextChar? {bs rest : List UInt8} {c : Char}
    (h : nextChar? bs = some (c, rest)) : bs = String.utf8EncodeChar c ++ rest := by
  cases bs with
  | nil => simp [nextChar?] at h
  | cons b bs =>
    simp only [nextChar?] at h
    rw [utf8EncodeChar_eq]
    split at h
    · rename_i hlt
      obtain ⟨rfl, rfl⟩ := Prod.mk.inj (Option.some.inj h)
      have hn := toNat_ofNat (show b.toNat.isValidChar from .inl (by omega))
      rw [hn, if_pos hlt, UInt8.ofNat_toNat]
      rfl
    split at h
    · simp at h
    split at h
    · obtain ⟨hencoded, hbits, rfl⟩ := readChar_eq_some_iff.mp h
      rw [isEncodedIn_one_iff] at hencoded
      rw [if_neg (by omega), if_pos (by omega), hbits, Nat.sub_add_cancel (by omega),
        UInt8.ofNat_toNat, List.cons_append]
    split at h
    · obtain ⟨hencoded, hbits, rfl⟩ := readChar_eq_some_iff.mp h
      rw [isEncodedIn_two_iff] at hencoded
      rw [if_neg (by omega), if_neg (by omega), if_pos (by omega), hbits,
        Nat.sub_add_cancel (by omega), UInt8.ofNat_toNat, List.cons_append]
    split at h
    · obtain ⟨hencoded, hbits, rfl⟩ := readChar_eq_some_iff.mp h
      rw [isEncodedIn_three_iff] at hencoded
      rw [if_neg (by omega), if_neg (by omega), if_neg (by omega), hbits,
        Nat.sub_add_cancel (by omega), UInt8.ofNat_toNat, List.cons_append]
    · simp at h

/-- The first character is the one whose encoding comes first. -/
theorem nextChar?_eq_some_iff {bs rest : List UInt8} {c : Char} :
    nextChar? bs = some (c, rest) ↔ bs = String.utf8EncodeChar c ++ rest :=
  ⟨eq_append_of_nextChar?, fun h => h ▸ nextChar?_utf8EncodeChar_append c rest⟩

lemma nextChar?_eq_none_iff {bs : List UInt8} : nextChar? bs = none ↔ ¬StartsChar bs := by
  constructor
  · rintro h ⟨c, rest, hrest⟩
    rw [nextChar?_eq_some_iff.mpr hrest.symm] at h
    simp at h
  · intro h
    cases hread : nextChar? bs with
    | none => rfl
    | some x => exact absurd ⟨x.1, x.2, (nextChar?_eq_some_iff.mp hread).symm⟩ h

/-! ### Texts -/

lemma decodeFrom_spec (fuel : Nat) (bs : List UInt8) (h : bs.length ≤ fuel) :
    bs = encodeUtf8 (decodeFrom fuel bs).1 ++ (decodeFrom fuel bs).2 ∧
      ¬StartsChar (decodeFrom fuel bs).2 := by
  induction fuel generalizing bs with
  | zero =>
    obtain rfl : bs = [] := List.eq_nil_of_length_eq_zero (by omega)
    exact ⟨rfl, nextChar?_eq_none_iff.mp rfl⟩
  | succ fuel ih =>
    rw [decodeFrom]
    cases hread : nextChar? bs with
    | none => exact ⟨rfl, nextChar?_eq_none_iff.mp hread⟩
    | some x =>
      obtain ⟨c, rest⟩ := x
      obtain rfl := nextChar?_eq_some_iff.mp hread
      have hpos := List.length_pos_of_ne_nil (@String.utf8EncodeChar_ne_nil c)
      rw [List.length_append] at h
      obtain ⟨hsplit, hstart⟩ := ih rest (by omega)
      refine ⟨?_, hstart⟩
      rw [encodeUtf8_cons, List.append_assoc, ← hsplit]

/-- A text and what follows it are known from the bytes, if the bytes that follow start no
character. -/
lemma encodeUtf8_append_inj {cs cs' : List Char} {left left' : List UInt8}
    (hleft : ¬StartsChar left) (hleft' : ¬StartsChar left')
    (h : encodeUtf8 cs ++ left = encodeUtf8 cs' ++ left') : cs = cs' ∧ left = left' := by
  induction cs generalizing cs' with
  | nil =>
    cases cs' with
    | nil => exact ⟨rfl, h⟩
    | cons c' cs' =>
      refine absurd ⟨c', encodeUtf8 cs' ++ left', ?_⟩ hleft
      rw [← List.append_assoc, ← encodeUtf8_cons, ← h, encodeUtf8_nil, List.nil_append]
  | cons c cs ih =>
    rw [encodeUtf8_cons, List.append_assoc] at h
    cases cs' with
    | nil => exact absurd ⟨c, encodeUtf8 cs ++ left, h⟩ hleft'
    | cons c' cs' =>
      rw [encodeUtf8_cons, List.append_assoc] at h
      have hread := nextChar?_utf8EncodeChar_append c (encodeUtf8 cs ++ left)
      rw [h, nextChar?_utf8EncodeChar_append] at hread
      obtain ⟨rfl, hrest⟩ := Prod.mk.inj (Option.some.inj hread)
      obtain ⟨rfl, rfl⟩ := ih hrest.symm
      exact ⟨rfl, rfl⟩

/-- **Decoding splits bytes at the first that encode no character.** -/
theorem decodeUtf8_eq_iff {bs left : List UInt8} {cs : List Char} :
    decodeUtf8 bs = (cs, left) ↔ bs = encodeUtf8 cs ++ left ∧ ¬StartsChar left := by
  obtain ⟨hsplit, hstart⟩ := decodeFrom_spec bs.length bs le_rfl
  constructor
  · intro h
    rw [decodeUtf8] at h
    rw [h] at hsplit hstart
    exact ⟨hsplit, hstart⟩
  · rintro ⟨hbs, hleft⟩
    obtain ⟨h1, h2⟩ := encodeUtf8_append_inj hstart hleft (hsplit.symm.trans hbs)
    exact Prod.ext h1 h2

/-- Nothing is left of the bytes of a text, and of these only. -/
theorem decodeUtf8_snd_eq_nil_iff {bs : List UInt8} : (decodeUtf8 bs).2 = [] ↔ IsUtf8 bs := by
  have hempty : ¬StartsChar [] := nextChar?_eq_none_iff.mp rfl
  constructor
  · intro h
    obtain ⟨hbs, -⟩ := decodeUtf8_eq_iff.mp (Prod.ext rfl h : decodeUtf8 bs = (_, []))
    exact ⟨_, hbs.trans (List.append_nil _)⟩
  · rintro ⟨cs, rfl⟩
    rw [decodeUtf8_eq_iff.mpr ⟨(List.append_nil _).symm, hempty⟩]

end PathRouter.Text
