import PathRouter.Pattern.Basic
import PathRouter.Template.Layout
import PathRouter.Template.Piece

/-!
# Filling a template

Each field of a template is replaced by the parameter that it names.  After the name, indices in
brackets select a character; a conversion quotes the value, and a layout, which may itself hold
fields, pads or cuts it.  A field without a name or with a number for a name asks for a value by
position, and there are none.
-/

namespace PathRouter.Template

/-- Splits a text at its first closing bracket. -/
def splitItem? : List Char → Option (List Char × List Char)
  | [] => none
  | c :: cs =>
    if c = ']' then some ([], cs)
    else
      match splitItem? cs with
      | none => none
      | some (item, rest) => some (c :: item, rest)

theorem splitItem?_length {cs item rest : List Char} (h : splitItem? cs = some (item, rest)) :
    rest.length < cs.length := by
  induction cs generalizing item rest with
  | nil => simp [splitItem?] at h
  | cons c cs ih =>
    simp only [splitItem?] at h
    split at h
    · simp only [Option.some.injEq, Prod.mk.injEq] at h
      simp [h.2]
    · split at h
      · simp at h
      · rename_i hs
        simp only [Option.some.injEq, Prod.mk.injEq] at h
        exact Nat.lt_succ_of_lt (h.2 ▸ ih hs)

/-- Selects from a value what the rest of a field's name says. -/
def select (value : List Char) : List Char → Except TemplateError (List Char)
  | [] => .ok value
  | c :: cs =>
    if c = '.' then
      let name := cs.takeWhile fun c => c ≠ '.' && c ≠ '['
      if name = [] then .error .emptyAttribute else .error (.noAttribute (String.ofList name))
    else if c = '[' then
      match _h : splitItem? cs with
      | none => .error .unclosedBracket
      | some (item, rest) =>
        match index? item with
        | .error e => .error e
        | .ok none => .error (if item = [] then .emptyAttribute else .indexNotNumber)
        | .ok (some i) =>
          match value[i]? with
          | none => .error .indexOutOfRange
          | some c => select [c] rest
    else .error .afterBracket
termination_by cs => cs.length
decreasing_by
  have := splitItem?_length ‹_›
  simp only [List.length_cons]
  omega

/-- The value of the field with a given name. -/
def value (params : Params) (name : List Char) : Except TemplateError (List Char) :=
  let first := name.takeWhile fun c => c ≠ '.' && c ≠ '['
  let rest := name.dropWhile fun c => c ≠ '.' && c ≠ '['
  match index? first with
  | .error e => .error e
  | .ok (some i) => .error (.noPosition i)
  | .ok none =>
    if first = [] then .error (.noPosition 0)
    else
      match params.get? (String.ofList first) with
      | none => .error (.unknownName (String.ofList first))
      | some v => select v.toList rest

/-- Converts a value as `!r`, `!s` or `!a` say; a null character asks for nothing. -/
def convert (conversion? : Option Char) (cs : List Char) : Except TemplateError (List Char) :=
  match conversion? with
  | none => .ok cs
  | some c =>
    if c = 'r' then .ok (Text.quote (String.ofList cs)).toList
    else if c = 's' ∨ c = '\x00' then .ok cs
    else if c = 'a' then .ok (Text.quoteAscii (String.ofList cs)).toList
    else .error (.unknownConversion c)

/-- Fills a field: its value is found, converted and laid out, in this order. -/
def fillField (params : Params) (layoutOf : Field → Except TemplateError (List Char))
    (f : Field) : Except TemplateError (List Char) := do
  let found ← value params f.name
  let converted ← convert f.conversion? found
  layOut (← layoutOf f) converted

/-- Fills the pieces of a template; `layoutOf` gives the layout of a field. -/
def fillPieces (params : Params) (layoutOf : Field → Except TemplateError (List Char)) :
    List Piece → Except TemplateError (List Char)
  | [] => .ok []
  | .char c :: ps =>
    match fillPieces params layoutOf ps with
    | .error e => .error e
    | .ok cs => .ok (c :: cs)
  | .field f :: ps =>
    match fillField params layoutOf f with
    | .error e => .error e
    | .ok cs =>
      match fillPieces params layoutOf ps with
      | .error e => .error e
      | .ok ds => .ok (cs ++ ds)

/-- Fills a template in which layouts may hold fields down to some depth. -/
def fillTo (params : Params) : Nat → List Char → Except TemplateError (List Char)
  | 0, _ => .error .tooDeep
  | depth + 1, cs =>
    let r := read cs
    let layoutOf (f : Field) : Except TemplateError (List Char) :=
      if '\x7b' ∈ f.layout then fillTo params depth f.layout else .ok f.layout
    match fillPieces params layoutOf r.pieces with
    | .error e => .error e
    | .ok ds =>
      match r.fault? with
      | none => .ok ds
      | some e => .error e

/-- Fills a template with parameters.  Layouts may hold fields, but these have plain layouts. -/
def fill (template : String) (params : Params) : Except TemplateError String :=
  match fillTo params 2 template.toList with
  | .error e => .error e
  | .ok cs => .ok (String.ofList cs)

end PathRouter.Template
