import PathRouter.Template.Error

/-!
# Pieces of a template

A template is text with fields in braces; a doubled brace stands for itself.  A field has a name,
and may have a conversion after `!` and a layout after `:`.  A template is read as a list of pieces
that ends at the first fault, so that what comes before the fault can still be filled.

Main statement: `readField_length`, by which reading makes progress.
-/

namespace PathRouter.Template

/-- A field of a template. -/
structure Field where
  name : List Char
  conversion? : Option Char
  layout : List Char
  deriving DecidableEq, Repr

/-- A piece of a template. -/
inductive Piece where
  | char (c : Char)
  | field (f : Field)
  deriving DecidableEq, Repr

/-- A template as far as it can be read, and the fault that ends it, if any. -/
structure Reading where
  pieces : List Piece
  fault? : Option TemplateError
  deriving DecidableEq, Repr

/-- A reading with one more piece in front. -/
def Reading.cons (p : Piece) (r : Reading) : Reading := ⟨p :: r.pieces, r.fault?⟩

/-- The rest of a field after its name: what ended the name, and what follows. -/
structure NameEnd where
  name : List Char
  mark : Char
  rest : List Char

/-- Reads the name of a field up to a closing brace, `!` or `:`.  These mean nothing between
brackets. -/
def readName (bracketed : Bool) : List Char → Except TemplateError NameEnd
  | [] => .error .unclosedField
  | c :: cs =>
    let continued (b : Bool) : Except TemplateError NameEnd :=
      match readName b cs with
      | .error e => .error e
      | .ok n => .ok { n with name := c :: n.name }
    if bracketed then continued (c ≠ ']')
    else if c = '\x7b' then .error .openInName
    else if c = '\x7d' ∨ c = ':' ∨ c = '!' then .ok ⟨[], c, cs⟩
    else continued (c = '[')

/-- Reads a layout up to the brace that closes the field, over `depth` fields within the layout. -/
def readLayout (depth : Nat) : List Char → Except TemplateError (List Char × List Char)
  | [] => .error .unclosedLayout
  | c :: cs =>
    let continued (d : Nat) : Except TemplateError (List Char × List Char) :=
      match readLayout d cs with
      | .error e => .error e
      | .ok (layout, rest) => .ok (c :: layout, rest)
    if c = '\x7b' then continued (depth + 1)
    else if c = '\x7d' then
      match depth with
      | 0 => .ok ([], cs)
      | d + 1 => continued d
    else continued depth

/-- Reads what follows `!` in a field: one character, and then the end of the field or a layout. -/
def readConversion (name : List Char) : List Char → Except TemplateError (Field × List Char)
  | [] => .error .missingConversion
  | [_] => .error .unclosedLayout
  | c :: d :: cs =>
    if d = '\x7d' then .ok (⟨name, some c, []⟩, cs)
    else if d = ':' then
      match readLayout 0 cs with
      | .error e => .error e
      | .ok (layout, rest) => .ok (⟨name, some c, layout⟩, rest)
    else .error .afterConversion

/-- Reads a field after its opening brace. -/
def readField (cs : List Char) : Except TemplateError (Field × List Char) :=
  match readName false cs with
  | .error e => .error e
  | .ok ⟨name, mark, rest⟩ =>
    if mark = '!' then readConversion name rest
    else if mark = ':' then
      match readLayout 0 rest with
      | .error e => .error e
      | .ok (layout, rest) => .ok (⟨name, none, layout⟩, rest)
    else .ok (⟨name, none, []⟩, rest)

/-! ### Progress -/

theorem readName_length {b : Bool} {cs : List Char} {n : NameEnd} (h : readName b cs = .ok n) :
    n.rest.length < cs.length := by
  induction cs generalizing b n with
  | nil => simp [readName] at h
  | cons c cs ih =>
    have step {d : Bool} {m : NameEnd} (hm : readName d cs = .ok m) :
        m.rest.length < (c :: cs).length := Nat.lt_succ_of_lt (ih hm)
    simp only [readName] at h
    split at h
    · split at h
      · simp at h
      · rename_i hm
        injection h with h
        exact h ▸ (step hm :)
    · split at h
      · simp at h
      · split at h
        · injection h with h
          simp [← h]
        · split at h
          · simp at h
          · rename_i hm
            injection h with h
            exact h ▸ (step hm :)

theorem readLayout_length {d : Nat} {cs layout rest : List Char}
    (h : readLayout d cs = .ok (layout, rest)) : rest.length < cs.length := by
  induction cs generalizing d layout rest with
  | nil => simp [readLayout] at h
  | cons c cs ih =>
    have step {d : Nat} {l r : List Char} (hm : readLayout d cs = .ok (l, r)) :
        r.length < (c :: cs).length := Nat.lt_succ_of_lt (ih hm)
    simp only [readLayout] at h
    split at h
    · split at h
      · simp at h
      · rename_i hm
        simp only [Except.ok.injEq, Prod.mk.injEq] at h
        exact h.2 ▸ step hm
    · split at h
      · split at h
        · simp only [Except.ok.injEq, Prod.mk.injEq] at h
          simp [h.2]
        · split at h
          · simp at h
          · rename_i hm
            simp only [Except.ok.injEq, Prod.mk.injEq] at h
            exact h.2 ▸ step hm
      · split at h
        · simp at h
        · rename_i hm
          simp only [Except.ok.injEq, Prod.mk.injEq] at h
          exact h.2 ▸ step hm

theorem readConversion_length {name cs rest : List Char} {f : Field}
    (h : readConversion name cs = .ok (f, rest)) : rest.length < cs.length := by
  match cs with
  | [] | [_] => simp [readConversion] at h
  | c :: d :: cs =>
    simp only [readConversion] at h
    split at h
    · simp only [Except.ok.injEq, Prod.mk.injEq] at h
      simp only [List.length_cons, h.2]
      omega
    · split at h
      · split at h
        · simp at h
        · rename_i hl
          have := readLayout_length hl
          simp only [Except.ok.injEq, Prod.mk.injEq] at h
          simp only [List.length_cons, ← h.2]
          omega
      · simp at h

/-- What follows a field is shorter than the field and what follows it. -/
theorem readField_length {cs rest : List Char} {f : Field} (h : readField cs = .ok (f, rest)) :
    rest.length < cs.length := by
  unfold readField at h
  split at h
  · simp at h
  · rename_i hn
    have := readName_length hn
    split at h
    · exact Nat.lt_trans (readConversion_length h) this
    · split at h
      · split at h
        · simp at h
        · rename_i hl
          simp only [Except.ok.injEq, Prod.mk.injEq] at h
          exact Nat.lt_trans (h.2 ▸ readLayout_length hl) this
      · simp only [Except.ok.injEq, Prod.mk.injEq] at h
        exact h.2 ▸ this

/-! ### Reading -/

/-- Reads a template. -/
def read : List Char → Reading
  | [] => ⟨[], none⟩
  | [c] =>
    if c = '\x7d' then ⟨[], some .singleClose⟩
    else if c = '\x7b' then ⟨[], some .singleOpen⟩
    else ⟨[.char c], none⟩
  | c :: d :: cs =>
    if c = '\x7d' then
      if d = '\x7d' then (read cs).cons (.char c) else ⟨[], some .singleClose⟩
    else if c = '\x7b' then
      if d = '\x7b' then (read cs).cons (.char c)
      else
        match _h : readField (d :: cs) with
        | .error e => ⟨[], some e⟩
        | .ok (f, rest) => (read rest).cons (.field f)
    else (read (d :: cs)).cons (.char c)
termination_by cs => cs.length
decreasing_by
  · simp only [List.length_cons]
    omega
  · simp only [List.length_cons]
    omega
  · have := readField_length ‹_›
    simp only [List.length_cons] at this ⊢
    omega
  · simp only [List.length_cons]
    omega

end PathRouter.Template
