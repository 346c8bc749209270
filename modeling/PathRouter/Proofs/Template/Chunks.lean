import PathRouter.Proofs.Follows
import PathRouter.Proofs.Segment.Spelling
import PathRouter.Template.Chunk
import PathRouter.Template.Fill

/-!
# Templates from chunks are filled chunk by chunk

A template made of literal texts with doubled braces and of fields with nothing but a word as name is
read back piece by piece (`Template.read_written`), however braces of a text and those of a field
meet.  So filling it is filling its chunks one by one and putting the parts together
(`Template.fill_writtenAll`).
-/

namespace PathRouter.Template

open Segment (IsNameChar IsWord)

/-! ### Reading -/

/-- A letter of a name does not end it. -/
lemma ne_mark_of_isNameChar {c : Char} (h : IsNameChar c) :
    c ≠ '\x7b' ∧ c ≠ '\x7d' ∧ c ≠ ':' ∧ c ≠ '!' ∧ c ≠ '[' ∧ c ≠ '.' := by
  refine ⟨?_, ?_, ?_, ?_, ?_, ?_⟩ <;> rintro rfl <;> exact absurd h (by decide)

/-- The name of a field is read up to the closing brace. -/
lemma readName_word {name : List Char} (h : ∀ c ∈ name, IsNameChar c) (rest : List Char) :
    readName false (name ++ '\x7d' :: rest) = .ok ⟨name, '\x7d', rest⟩ := by
  induction name with
  | nil => simp [readName]
  | cons c name ih =>
    rw [List.forall_mem_cons] at h
    obtain ⟨hopen, hclose, hcolon, hbang, hbracket, -⟩ := ne_mark_of_isNameChar h.1
    simp [readName, hopen, hclose, hcolon, hbang, hbracket, ih h.2]

/-- A field with nothing but a name. -/
def plainField (name : List Char) : Field := ⟨name, none, []⟩

lemma readField_word {name : List Char} (h : ∀ c ∈ name, IsNameChar c)
    (rest : List Char) : readField (name ++ '\x7d' :: rest) = .ok (plainField name, rest) := by
  rw [readField, readName_word h]
  rfl

/-- A character that is written as such, or doubled if it is a brace, is read as that character. -/
lemma read_writtenChar (c : Char) (rest : List Char) :
    read (writtenChar c ++ rest) = (read rest).cons (.char c) := by
  by_cases hclose : c = '\x7d'
  · subst hclose
    simp [writtenChar, read]
  · by_cases hopen : c = '\x7b'
    · subst hopen
      simp [writtenChar, read]
    · cases rest with
      | nil => simp [writtenChar, hclose, hopen, read, Reading.cons]
      | cons d rest => simp [writtenChar, hclose, hopen, read]

/-- A field between braces is read as that field. -/
lemma read_field {name : List Char} (h : IsWord name) (rest : List Char) :
    read ('\x7b' :: (name ++ '\x7d' :: rest)) = (read rest).cons (.field (plainField name)) := by
  obtain ⟨hne, hword⟩ := h
  have hfield := readField_word hword rest
  cases name with
  | nil => exact absurd rfl hne
  | cons c name =>
    obtain ⟨hopen, -⟩ := ne_mark_of_isNameChar (hword c (by simp))
    rw [List.cons_append] at hfield ⊢
    rw [read]
    simp only [Char.reduceEq, if_false, if_true, hopen]
    split
    · rename_i e he
      rw [hfield] at he
      simp at he
    · rename_i f rest' hf
      rw [hfield, Except.ok.injEq, Prod.mk.injEq] at hf
      rw [hf.1, hf.2]

namespace Chunk

/-- The pieces of a chunk. -/
def pieces : Chunk → List Piece
  | text cs => cs.map .char
  | field name => [.field (plainField name)]

/-- The name of a field is a word. -/
def IsPlain : Chunk → Prop
  | text _ => True
  | field name => IsWord name

end Chunk

/-- A reading with more pieces in front. -/
def Reading.prepend (ps : List Piece) (r : Reading) : Reading := ⟨ps ++ r.pieces, r.fault?⟩

/-- A chunk in front of a template is read as its pieces. -/
lemma read_written_append {chunk : Chunk} (h : chunk.IsPlain) (rest : List Char) :
    read (chunk.written ++ rest) = (read rest).prepend chunk.pieces := by
  cases chunk with
  | text cs =>
    induction cs with
    | nil => rfl
    | cons c cs ih =>
      have htext : Chunk.written (.text (c :: cs)) = writtenChar c ++ Chunk.written (.text cs) :=
        List.flatMap_cons
      rw [htext, List.append_assoc, read_writtenChar, ih trivial]
      rfl
  | field name =>
    have hfield : Chunk.written (.field name) ++ rest = '\x7b' :: (name ++ '\x7d' :: rest) := by
      simp [Chunk.written]
    rw [hfield, read_field h]
    rfl

/-- A template from chunks is read without a fault, as the pieces of its chunks. -/
theorem read_written {chunks : List Chunk} (h : ∀ chunk ∈ chunks, chunk.IsPlain) :
    read (chunks.flatMap Chunk.written) = ⟨chunks.flatMap Chunk.pieces, none⟩ := by
  induction chunks with
  | nil => simp [read]
  | cons chunk chunks ih =>
    rw [List.forall_mem_cons] at h
    rw [List.flatMap_cons, read_written_append h.1, ih h.2]
    rfl

/-! ### Filling -/

/-- What a chunk is filled with. -/
def Chunk.fill (ps : Params) : Chunk → Except TemplateError (List Char)
  | text cs => .ok cs
  | field name => value ps name

/-- A field with nothing but a name is replaced by its value as it is. -/
lemma fillField_plainField (ps : Params) {layoutOf : Field → Except TemplateError (List Char)}
    {name : List Char} (hlayout : layoutOf (plainField name) = .ok []) :
    fillField ps layoutOf (plainField name) = value ps name := by
  have hname : (plainField name).name = name := rfl
  rw [fillField, hlayout, hname]
  cases value ps name <;> rfl

/-- The pieces of a text are filled with the text. -/
lemma fillPieces_text (ps : Params) (layoutOf : Field → Except TemplateError (List Char))
    (cs : List Char) (rest : List Piece) :
    fillPieces ps layoutOf (cs.map .char ++ rest) =
      (fillPieces ps layoutOf rest).map (cs ++ ·) := by
  induction cs with
  | nil =>
    rw [List.map_nil, List.nil_append]
    cases fillPieces ps layoutOf rest <;> rfl
  | cons c cs ih =>
    rw [List.map_cons, List.cons_append, fillPieces, ih]
    cases fillPieces ps layoutOf rest <;> rfl

/-- The pieces of chunks are filled chunk by chunk. -/
lemma fillPieces_pieces (ps : Params) {layoutOf : Field → Except TemplateError (List Char)}
    (hlayout : ∀ name, layoutOf (plainField name) = .ok []) (chunks : List Chunk) :
    fillPieces ps layoutOf (chunks.flatMap Chunk.pieces) =
      (chunks.mapM (Chunk.fill ps)).map List.flatten := by
  induction chunks with
  | nil => rfl
  | cons chunk chunks ih =>
    rw [List.flatMap_cons]
    cases chunk with
    | text cs =>
      have hfill : Chunk.fill ps (.text cs) = .ok cs := rfl
      rw [mapM_cons_of_ok hfill, Chunk.pieces, fillPieces_text, ih]
      cases chunks.mapM (Chunk.fill ps) <;> rfl
    | field name =>
      have hfill : Chunk.fill ps (.field name) = value ps name := rfl
      rw [Chunk.pieces, List.singleton_append, fillPieces, fillField_plainField ps (hlayout name),
        ih]
      cases hvalue : value ps name with
      | error e =>
        rw [mapM_cons_of_error (hfill.trans hvalue)]
        rfl
      | ok v =>
        rw [mapM_cons_of_ok (hfill.trans hvalue)]
        cases chunks.mapM (Chunk.fill ps) <;> rfl

/-- **A template from chunks is filled chunk by chunk.** -/
theorem fill_writtenAll (ps : Params) {chunks : List Chunk} (h : ∀ chunk ∈ chunks, chunk.IsPlain) :
    fill (Chunk.writtenAll chunks) ps =
      (chunks.mapM (Chunk.fill ps)).map fun parts => String.ofList parts.flatten := by
  have hlayout : ∀ name : List Char, '\x7b' ∉ (plainField name).layout := fun _ =>
    List.not_mem_nil
  rw [fill, Chunk.writtenAll, String.toList_ofList, fillTo, read_written h]
  dsimp only
  rw [fillPieces_pieces ps (fun name => if_neg (hlayout name))]
  cases chunks.mapM (Chunk.fill ps) <;> rfl

end PathRouter.Template
