import Mathlib.Algebra.Group.Nat.Defs
import PathRouter.Proofs.Yaml.Places
import PathRouter.Yaml.Token.Property

/-!
# What readers of a text fail with

A reader starts at a place of a text and ends at a later one, or it fails.  It fails because the
text is malformed, or because a number in it is too large: that of an escaped character
(`Exceeds.escape`) or that of a version (`Exceeds.version`).  `Reads` says this of a result, and the
readers of scalars, names, tags and directives are shown to satisfy it one by one.
-/

namespace PathRouter.Yaml

/-- A number in a text is too large. -/
inductive Exceeds (cs : List Char) : Fault → Prop where
  /-- The eight digits of an escape are beyond all characters. -/
  | escape {digits : List Char} {n : Nat} {f : Fault} (place : '\\' :: 'U' :: digits <:+: cs)
      (width : digits.length = 8) (number : Cursor.hexNumber? digits = some n)
      (beyond : Cursor.charOfCode n = .error f) : Exceeds cs f
  /-- A number of a version has too many digits. -/
  | version {before digits : List Char} (place : "%YAML".toList ++ before ++ digits <:+: cs)
      (rest : ∀ c ∈ before, c = ' ' ∨ c = '.' ∨ c.isDigit = true)
      (number : ∀ c ∈ digits, c.isDigit = true)
      (long : Cursor.maxVersionDigits < digits.length) : Exceeds cs .badScalar

lemma Exceeds.mono {cs ds : List Char} {f : Fault} (h : Exceeds cs f) (hcs : cs <:+: ds) :
    Exceeds ds f := by
  cases h with
  | escape place width number beyond => exact .escape (place.trans hcs) width number beyond
  | version place rest number long => exact .version (place.trans hcs) rest number long

/-- Why reading a text can fail.  Readers of a part of a text may also fail with a fault of their
own, `outer`. -/
def Reason (outer : Fault) (cs : List Char) (f : Fault) : Prop :=
  f = .malformed ∨ f = outer ∨ Exceeds cs f

lemma Reason.mono {outer f : Fault} {cs ds : List Char} (h : Reason outer cs f) (hcs : cs <:+: ds) :
    Reason outer ds f :=
  h.imp_right fun h => h.imp_right fun h => h.mono hcs

/-- An outcome of reading `cs`: a result with a property, or a fault with a reason. -/
def Outcome {γ : Type} (outer : Fault) (cs : List Char) (P : γ → Prop) : Except Fault γ → Prop
  | .ok x => P x
  | .error f => Reason outer cs f

/-- An outcome of reading `cs` whose result leaves a suffix of it. -/
abbrev Reads {γ : Type} (outer : Fault) (cs : List Char) (left : γ → List Char)
    (r : Except Fault γ) : Prop :=
  Outcome outer cs (fun x => left x <:+ cs) r

/-- A token is read, but not the one that ends the text. -/
abbrev ReadsToken (outer : Fault) (cs : List Char) (r : Except Fault (Token × Cursor)) : Prop :=
  Outcome outer cs (fun x => x.2.rest <:+ cs ∧ x.1 ≠ .streamEnd) r

section

variable {γ δ : Type} {outer : Fault} {cs ds : List Char} {r : Except Fault γ}
  {k : γ → Except Fault δ}

lemma Outcome.malformed {P : γ → Prop} : Outcome outer cs P (.error .malformed) := .inl rfl

/-- A part of a text has the reasons of the whole. -/
lemma Outcome.mono {P Q : γ → Prop} (h : Outcome outer cs P r) (hcs : cs <:+ ds)
    (hPQ : ∀ x, P x → Q x) : Outcome outer ds Q r := by
  cases r with
  | ok x => exact hPQ x h
  | error f => exact Reason.mono h hcs.isInfix

/-- Reading in one way or another. -/
lemma Outcome.ite {P : γ → Prop} {p : Prop} [Decidable p] {r' : Except Fault γ}
    (h : p → Outcome outer cs P r) (h' : ¬p → Outcome outer cs P r') :
    Outcome outer cs P (if p then r else r') := by
  by_cases hp : p
  · rw [if_pos hp]
    exact h hp
  · rw [if_neg hp]
    exact h' hp

/-- Reading twice. -/
lemma Outcome.bind {P : γ → Prop} {Q : δ → Prop} (h : Outcome outer cs P r)
    (hk : ∀ x, r = .ok x → P x → Outcome outer cs Q (k x)) : Outcome outer cs Q (r >>= k) := by
  cases r with
  | ok x => exact hk x rfl h
  | error f => exact h

variable {left : γ → List Char} {left' : δ → List Char}

lemma Reads.of_suffix (h : Reads outer cs left r) (hcs : cs <:+ ds) : Reads outer ds left r :=
  h.mono hcs fun _ hx => hx.trans hcs

/-- Reading on from where a reader ended. -/
lemma Reads.bind (h : Reads outer cs left r) (hk : ∀ x, Reads outer (left x) left' (k x)) :
    Reads outer cs left' (r >>= k) :=
  Outcome.bind h fun x _ hx => (hk x).of_suffix hx

end

namespace Cursor

variable {outer : Fault}

/-- What is left after a result with a cursor. -/
abbrev leftOf {γ : Type} (x : γ × Cursor) : List Char := x.2.rest

/-! ### Quoted scalars -/

lemma reads_quotedBreaks (fuel : Nat) (c : Cursor) :
    Reads outer c.rest leftOf (c.quotedBreaks fuel) := by
  induction fuel generalizing c with
  | zero => exact List.suffix_refl _
  | succ fuel ih =>
    have hblanks : (c.skipWhile isBlank).rest <:+ c.rest := span_suffix _ c
    unfold quotedBreaks
    split
    · exact .malformed
    · dsimp only
      split
      · exact hblanks
      · rename_i b d hbreak
        have hmore := (ih d).of_suffix ((lineBreak?_suffix hbreak).trans hblanks)
        generalize d.quotedBreaks fuel = more at hmore ⊢
        cases more <;> exact hmore

lemma reads_quotedSpaces (c : Cursor) : Reads outer c.rest leftOf c.quotedSpaces := by
  have hspan := span_suffix isBlank c
  unfold quotedSpaces
  generalize c.span isBlank = blanks at hspan ⊢
  dsimp only
  split
  · exact hspan
  · rename_i b d hbreak
    have hmore : Reads outer c.rest leftOf (d.quotedBreaks d.rest.length) :=
      (reads_quotedBreaks _ d).of_suffix ((lineBreak?_suffix hbreak).trans hspan)
    generalize d.quotedBreaks d.rest.length = more at hmore ⊢
    cases more <;> exact hmore

lemma hexDigit?_lt {c : Char} {d : Nat} (h : hexDigit? c = some d) : d < 16 := by
  have hdigit : c.isDigit = true → c.toNat < 58 := by
    simp only [Char.isDigit, Bool.and_eq_true, decide_eq_true_eq]
    exact fun h => Nat.lt_succ_of_le (UInt32.le_iff_toNat_le.mp h.2)
  have hlower : c ≤ 'f' → c.toNat < 103 := fun h =>
    Nat.lt_succ_of_le (UInt32.le_iff_toNat_le.mp (Char.le_def.mp h))
  have hupper : c ≤ 'F' → c.toNat < 71 := fun h =>
    Nat.lt_succ_of_le (UInt32.le_iff_toNat_le.mp (Char.le_def.mp h))
  unfold hexDigit? at h
  split at h
  · have := hdigit ‹_›
    rw [Option.some_inj] at h
    omega
  · split at h
    · have := hlower (‹_ ∧ _›).2
      rw [Option.some_inj] at h
      omega
    · split at h
      · have := hupper (‹_ ∧ _›).2
        rw [Option.some_inj] at h
        omega
      · simp at h

/-- What is no digit spoils the rest of a number. -/
lemma foldl_hexDigit?_none (cs : List Char) :
    cs.foldl (fun n? c => n?.bind fun n => (hexDigit? c).map (16 * n + ·)) none = none := by
  induction cs with
  | nil => rfl
  | cons c cs ih => exact ih

/-- Digits after those that gave `m` denote a number with no more digits. -/
lemma foldl_hexDigit?_lt {cs : List Char} {m n : Nat}
    (h : cs.foldl (fun n? c => n?.bind fun n => (hexDigit? c).map (16 * n + ·)) (some m) =
      some n) : n < (m + 1) * 16 ^ cs.length := by
  induction cs generalizing m with
  | nil =>
    obtain rfl : m = n := Option.some_inj.mp h
    simp
  | cons c cs ih =>
    rw [List.foldl_cons, Option.bind_some] at h
    cases hdigit : hexDigit? c with
    | none =>
      rw [hdigit, Option.map_none, foldl_hexDigit?_none] at h
      simp at h
    | some d =>
      rw [hdigit, Option.map_some] at h
      have hd : 16 * m + d + 1 ≤ (m + 1) * 16 := by
        have := hexDigit?_lt hdigit
        omega
      calc n < (16 * m + d + 1) * 16 ^ cs.length := ih h
        _ ≤ (m + 1) * 16 * 16 ^ cs.length := Nat.mul_le_mul_right _ hd
        _ = (m + 1) * 16 ^ (c :: cs).length := by
          rw [List.length_cons, Nat.pow_succ', Nat.mul_assoc]

/-- Digits denote a number with no more digits. -/
lemma hexNumber?_lt {cs : List Char} {n : Nat} (h : hexNumber? cs = some n) :
    n < 16 ^ cs.length := by
  have hlt : n < (0 + 1) * 16 ^ cs.length := foldl_hexDigit?_lt h
  simpa using hlt

/-- Numbers of four digits are not too large. -/
lemma charOfCode_ne_error {n : Nat} (h : n < 16 ^ 4) (f : Fault) : charOfCode n ≠ .error f := by
  have hsigned : ¬0x7fffffff < n := by omega
  have hlast : ¬0x10ffff < n := by omega
  rw [charOfCode, if_neg hsigned, if_neg hlast]
  simp

/-- Escapes have up to four digits, or eight after `U`. -/
lemma escapeWidth?_eq_some {ch : Char} {width : Nat} (h : escapeWidth? ch = some width) :
    width ≤ 4 ∨ ch = 'U' ∧ width = 8 := by
  unfold escapeWidth? at h
  split at h
  · exact .inl (by injection h; omega)
  · exact .inl (by injection h; omega)
  · exact .inr ⟨rfl, by injection h; omega⟩
  · simp at h

/-- After a backslash, only the number of an escape can be too large. -/
lemma reads_escaped (c : Cursor) : Reads outer ('\\' :: c.rest) leftOf c.escaped := by
  have hnext : c.next.rest <:+ '\\' :: c.rest :=
    (next_suffix c).trans (List.suffix_cons _ _)
  unfold escaped
  split
  · exact .malformed
  · rename_i ch hch
    split
    · exact hnext
    · rename_i width hshort hwidth
      dsimp only
      split
      · exact .malformed
      · rename_i n hn
        split
        · exact .malformed
        · rename_i hlength
          split
          · rename_i f hf
            have hle : (c.next.rest.take width).length ≤ width := List.length_take_le _ _
            rcases escapeWidth?_eq_some hwidth with hfour | ⟨rfl, rfl⟩
            · have hbound : n < 16 ^ 4 := Nat.lt_of_lt_of_le (hexNumber?_lt hn)
                (Nat.pow_le_pow_right (by decide) (Nat.le_trans hle hfour))
              exact absurd hf (charOfCode_ne_error hbound f)
            · have hplace : '\\' :: 'U' :: c.next.rest.take 8 <+: '\\' :: c.rest := by
                rw [rest_eq_cons hch, List.prefix_cons_inj, List.prefix_cons_inj]
                exact List.take_prefix _ _
              exact .inr (.inr (.escape hplace.isInfix (by omega) hn hf))
          · exact (skip_suffix width c.next).trans hnext
    · split
      · exact .malformed
      · rename_i d hbreak
        exact (reads_quotedBreaks _ d).of_suffix
          ((lineBreak?_suffix hbreak).trans (List.suffix_cons _ _))

/-- The result of reading quoted text; a text that ends too early is the fault `outer`. -/
def ReadsQuoted (outer : Fault) (cs : List Char) :
    Except (Option Fault) (List Char × Cursor) → Prop
  | .ok x => x.2.rest <:+ cs
  | .error f? => Reason outer cs (f?.getD outer)

lemma ReadsQuoted.of_suffix {cs ds : List Char} {r : Except (Option Fault) (List Char × Cursor)}
    (h : ReadsQuoted outer cs r) (hcs : cs <:+ ds) : ReadsQuoted outer ds r := by
  cases r with
  | ok x => exact List.IsSuffix.trans h hcs
  | error f? => exact Reason.mono h hcs.isInfix

/-- Quoted text goes on after a part of it. -/
lemma readsQuoted_before {cs : List Char} {r : Except Fault (List Char × Cursor)}
    (h : Reads outer cs leftOf r) {more : Cursor → Except (Option Fault) (List Char × Cursor)}
    (hmore : ∀ d, ReadsQuoted outer d.rest (more d)) :
    ReadsQuoted outer cs (match r with
      | .error e => .error (some e)
      | .ok (cs, d) =>
        match more d with
        | .error e => .error e
        | .ok (text, e) => .ok (cs ++ text, e)) := by
  cases r with
  | error f => exact h
  | ok x =>
    have hd : ReadsQuoted outer cs (more x.2) := (hmore x.2).of_suffix h
    dsimp only
    generalize more x.2 = r at hd ⊢
    cases r <;> exact hd

lemma reads_quotedFrom (double : Bool) (fuel : Nat) (c : Cursor) :
    ReadsQuoted outer c.rest (quotedFrom double fuel c) := by
  induction fuel generalizing c with
  | zero => exact .inr (.inl rfl)
  | succ fuel ih =>
    unfold quotedFrom
    dsimp only
    split
    · exact .inr (.inl rfl)
    · rename_i ch hch
      have hone : Reads outer c.rest leftOf (.ok ([ch], c.next)) := next_suffix c
      have htwo : Reads outer c.rest leftOf (.ok ([ch], c.skip 2)) := skip_suffix 2 c
      split
      · exact readsQuoted_before (reads_quotedSpaces c) ih
      · split
        · split
          · exact next_suffix c
          · split
            · rename_i hback
              rw [rest_eq_cons hch, hback]
              exact readsQuoted_before (reads_escaped c.next) ih
            · exact readsQuoted_before hone ih
        · split
          · exact readsQuoted_before hone ih
          · split
            · exact readsQuoted_before htwo ih
            · exact next_suffix c

lemma reads_quoted (c : Cursor) : ReadsQuoted outer c.rest c.quoted :=
  (reads_quotedFrom _ _ c.next).of_suffix (next_suffix c)

/-! ### Blocks -/

lemma reads_indentation (c : Cursor) : Reads outer c.rest leftOf c.indentation := by
  unfold indentation
  split
  · exact List.suffix_refl _
  · split
    · split
      · exact .malformed
      · exact next_suffix c
    · exact List.suffix_refl _

lemma reads_blockHeader (c : Cursor) :
    Reads outer c.rest (fun x => x.2.2.rest) c.blockHeader := by
  unfold blockHeader
  refine Outcome.bind (P := fun x => x.2.2.rest <:+ c.rest) ?_ ?_
  · split
    · refine (Reads.bind (reads_indentation c.next) ?_).of_suffix (next_suffix c)
      rintro ⟨width?, d⟩
      exact List.suffix_refl _
    · refine Reads.bind (reads_indentation c) ?_
      rintro ⟨width?, d⟩
      dsimp only
      split
      · exact next_suffix d
      · exact List.suffix_refl _
  · rintro ⟨chomp, width?, d⟩ - hd
    have hcomment := ((skipComment_suffix d.skipSpaces).trans (skipSpaces_suffix d)).trans hd
    dsimp only
    split
    · exact .malformed
    · split
      · exact .malformed
      · exact (skipBreak_suffix _).trans hcomment

lemma reads_block (indent : Int) (c : Cursor) : Reads outer c.rest leftOf (c.block indent) := by
  have hheader : Reads outer c.rest (fun x => x.2.2.rest) c.next.blockHeader :=
    (reads_blockHeader c.next).of_suffix (next_suffix c)
  unfold block
  generalize c.next.blockHeader = header at hheader ⊢
  cases header with
  | error f => exact hheader
  | ok x =>
    obtain ⟨chomp, width?, d⟩ := x
    have hd : d.rest <:+ c.rest := hheader
    refine (blockLines_suffix _ _ _ _ _ _).trans ?_
    dsimp only
    cases width? with
    | none => exact (blockIndentation_suffix _ _ d).trans hd
    | some width => exact (blockBreaks_suffix _ _ d).trans hd

/-! ### Names and tags -/

lemma reads_name (c : Cursor) : Reads outer c.rest leftOf c.name := by
  have hspan := span_suffix isNameChar c
  unfold name
  generalize c.span isNameChar = found at hspan ⊢
  dsimp only
  split
  · exact .malformed
  · exact hspan

lemma percentBytes_error {cs : List Char} {f : Fault} (h : percentBytes cs = .error f) :
    f = .malformed := by
  fun_induction percentBytes cs with
  | case1 => simpa using h.symm
  | case2 a b cs n e he _ ih =>
    rw [Except.error.injEq] at h
    exact ih (h ▸ he)
  | case3 => simp at h
  | case4 => simpa using h.symm
  | case5 => simp at h

lemma resolvePercent_error {fuel : Nat} {cs : List Char} {f : Fault}
    (h : resolvePercent fuel cs = .error f) : f = .malformed := by
  fun_induction resolvePercent fuel cs with
  | case1 => simp at h
  | case2 => simp at h
  | case3 fuel cs e he =>
    rw [Except.error.injEq] at h
    exact percentBytes_error (h ▸ he)
  | case4 => simp at h
  | case5 => simpa using h.symm
  | case6 fuel c cs _ e he ih =>
    rw [Except.error.injEq] at h
    exact ih (h ▸ he)
  | case7 => simp at h

lemma reads_address (c : Cursor) : Reads outer c.rest leftOf c.address := by
  have hspan := span_suffix isAddressChar c
  unfold address
  generalize c.span isAddressChar = found at hspan ⊢
  dsimp only
  split
  · exact .malformed
  · split
    · exact .inl (resolvePercent_error ‹_›)
    · exact hspan

lemma reads_handle (c : Cursor) : Reads outer c.rest leftOf c.handle := by
  have hspan := (span_suffix isNameChar c.next).trans (next_suffix c)
  unfold handle
  generalize c.next.span isNameChar = found at hspan ⊢
  dsimp only
  split
  · exact .malformed
  · split
    · exact next_suffix c
    · split
      · exact .malformed
      · exact (next_suffix _).trans hspan

lemma reads_tag (c : Cursor) : ReadsToken outer c.rest c.tag := by
  unfold tag
  refine Outcome.bind (P := fun x => x.2.2.rest <:+ c.rest) ?_ ?_
  · split
    · refine (Reads.bind (reads_address (c.skip 2)) ?_).of_suffix (skip_suffix 2 c)
      rintro ⟨uri, d⟩
      dsimp only
      split
      · exact .malformed
      · exact next_suffix d
    · split
      · exact next_suffix c
      · dsimp only
        split
        · refine Reads.bind (reads_handle c) ?_
          rintro ⟨h, d⟩
          refine (Reads.bind (reads_address d) ?_)
          rintro ⟨suffix, d⟩
          exact List.suffix_refl _
        · refine (Reads.bind (reads_address c.next) ?_).of_suffix (next_suffix c)
          rintro ⟨suffix, d⟩
          exact List.suffix_refl _
  · rintro ⟨handle?, suffix, d⟩ - hd
    dsimp only
    split
    · exact .malformed
    · exact ⟨hd, by simp⟩

/-! ### Directives -/

/-- At the cursor there is a place of `cs` for a number of a version: only blanks, a number and a
point come between it and the name of the directive. -/
def VersionPlace (cs : List Char) (c : Cursor) : Prop :=
  ∃ before, cs = "%YAML".toList ++ before ++ c.rest ∧
    ∀ ch ∈ before, ch = ' ' ∨ ch = '.' ∨ ch.isDigit = true

/-- A number of a version is read, or has too many digits. -/
lemma reads_versionNumber {cs : List Char} {c : Cursor} (h : VersionPlace cs c) :
    Reads outer cs leftOf c.versionNumber := by
  obtain ⟨before, rfl, hbefore⟩ := h
  have hspan := span_append Char.isDigit c
  have hdigits : ∀ ch ∈ (c.span Char.isDigit).1, ch.isDigit = true := fun _ => of_mem_span
  unfold versionNumber
  generalize c.span Char.isDigit = found at hspan hdigits ⊢
  dsimp only
  rw [← hspan]
  split
  · exact .malformed
  · split
    · have hplace : "%YAML".toList ++ before ++ found.1 <+:
          "%YAML".toList ++ before ++ (found.1 ++ found.2.rest) := by
        rw [← List.append_assoc]
        exact List.prefix_append _ _
      exact .inr (.inr (.version hplace.isInfix hbefore hdigits ‹_›))
    · rw [← List.append_assoc]
      exact List.suffix_append _ _

/-- Another place for a number comes after some more of what is between. -/
lemma VersionPlace.append {cs more : List Char} {c d : Cursor} (h : VersionPlace cs c)
    (hd : more ++ d.rest = c.rest) (hmore : ∀ ch ∈ more, ch = ' ' ∨ ch = '.' ∨ ch.isDigit = true) :
    VersionPlace cs d := by
  obtain ⟨before, rfl, hbefore⟩ := h
  refine ⟨before ++ more, by simp [← hd], fun ch hch => ?_⟩
  rcases List.mem_append.mp hch with hch | hch
  · exact hbefore ch hch
  · exact hmore ch hch

lemma VersionPlace.of_versionNumber {cs : List Char} {c d : Cursor} {n : Nat}
    (h : VersionPlace cs c) (hx : c.versionNumber = .ok (n, d)) : VersionPlace cs d := by
  have hspan := h.append (span_append Char.isDigit c) fun ch hch => .inr (.inr (of_mem_span hch))
  unfold versionNumber at hx
  generalize c.span Char.isDigit = found at hspan hx
  dsimp only at hx
  split at hx
  · simp at hx
  · split at hx
    · simp at hx
    · rw [Except.ok.injEq, Prod.mk.injEq] at hx
      exact hx.2 ▸ hspan

lemma reads_directiveValue (word : List Char) (c : Cursor) :
    Reads outer ('%' :: word ++ c.rest) leftOf (c.directiveValue word) := by
  have hrest : c.rest <:+ '%' :: word ++ c.rest := List.suffix_append _ _
  unfold directiveValue
  split
  · rename_i hword
    have hplace : VersionPlace ('%' :: word ++ c.rest) c := ⟨[], by simp [hword], by simp⟩
    have hmajor : VersionPlace ('%' :: word ++ c.rest) c.skipSpaces :=
      hplace.append (span_append (· = ' ') c) fun ch hch =>
        .inl (decide_eq_true_iff.mp (of_mem_span hch))
    refine Outcome.bind (reads_versionNumber hmajor) ?_
    rintro ⟨major, d⟩ hd -
    dsimp only
    split
    · exact .malformed
    · rename_i hpoint
      have hnext : ['.'] ++ d.next.rest = d.rest := (rest_eq_cons (not_not.mp hpoint)).symm
      have hminor : VersionPlace ('%' :: word ++ c.rest) d.next :=
        (hmajor.of_versionNumber hd).append hnext (by simp)
      refine Outcome.bind (reads_versionNumber hminor) ?_
      rintro ⟨minor, e⟩ he -
      dsimp only
      split
      · exact .malformed
      · obtain ⟨before, hcs, -⟩ := hminor.of_versionNumber he
        rw [hcs]
        exact List.suffix_append _ _
  · split
    · refine (Reads.bind (reads_handle c.skipSpaces) ?_).of_suffix
        ((skipSpaces_suffix c).trans hrest)
      rintro ⟨h, d⟩
      dsimp only
      split
      · exact .malformed
      · refine (Reads.bind (reads_address d.skipSpaces) ?_).of_suffix (skipSpaces_suffix d)
        rintro ⟨uri, e⟩
        dsimp only
        split
        · exact .malformed
        · exact List.suffix_refl _
    · exact (span_suffix _ c).trans hrest

lemma reads_directive {c : Cursor} (h : c.char? = some '%') :
    ReadsToken outer c.rest c.directive := by
  have hspan := span_append isNameChar c.next
  unfold directive
  generalize c.next.span isNameChar = found at hspan ⊢
  have hrest : '%' :: found.1 ++ found.2.rest = c.rest := by
    rw [rest_eq_cons h, List.cons_append, hspan]
  dsimp only
  split
  · exact .malformed
  · rw [← hrest]
    refine Outcome.bind (reads_directiveValue found.1 found.2) ?_
    rintro ⟨d, e⟩ - he
    dsimp only
    split
    · exact .malformed
    · have hcomment := (skipComment_suffix e.skipSpaces).trans (skipSpaces_suffix e)
      exact ⟨(skipBreak_suffix _).trans (hcomment.trans he), by simp⟩

end Cursor

end PathRouter.Yaml
