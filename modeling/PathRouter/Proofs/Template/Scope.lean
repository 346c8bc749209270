import PathRouter.Handler
import PathRouter.Proofs.Table.FirstMatch
import PathRouter.Proofs.Template.Chunks

/-!
# Templates as handlers

A route whose handler is a template answers with what the match of its pattern captured.  For
templates from chunks the names of the parameters alone decide whether it can: `InScope` says of a
field that every match has a value for it, and `Refuses` says what is wrong with a field that is not
in scope.  `RouteTable.dispatch_format` is the main statement: a request is answered with the filled
template if all fields are in scope, and otherwise fails with the error of the leftmost field that
is not, whatever the path.

Parameters may have names that consist of digits or start with them.  A field of digits is a
position, even if the pattern has a parameter of that name, and digits that denote a number beyond
`largestNumber` are refused before the rest of the name is looked at.
-/

namespace PathRouter

namespace Template

open Segment (IsNameChar IsWord)

/-! ### Digits at the beginning of a name -/

/-- The number that digits denote after those that gave `n`. -/
def numberAfter (n : Nat) (digits : List Char) : Nat :=
  digits.foldl (fun n c => 10 * n + (c.toNat - 48)) n

/-- The number that the digits before the first other character of a name denote. -/
def leadingNumber (name : List Char) : Nat := numberAfter 0 (name.takeWhile Char.isDigit)

/-- More digits never denote less. -/
lemma le_numberAfter (n : Nat) (digits : List Char) : n ≤ numberAfter n digits := by
  induction digits generalizing n with
  | nil => exact Nat.le_refl n
  | cons c digits ih =>
    have hstep : n ≤ 10 * n + (c.toNat - 48) := by omega
    exact Nat.le_trans hstep (ih _)

/-- The digits among the letters of names are the ASCII digits. -/
lemma decimalDigit?_of_isNameChar {c : Char} (h : IsNameChar c) :
    Text.decimalDigit? c = if c.isDigit then some (c.toNat - 48) else none := by
  have hascii : c.toNat < 0x80 := Nat.lt_succ_of_lt (Segment.toNat_of_isNameChar h).2.1
  rw [Text.decimalDigit?, if_pos hascii]

/-- Reading digits stops at the first other character, unless the number grows too large before
that. -/
lemma readDigits_word {cs : List Char} (h : ∀ c ∈ cs, IsNameChar c) {n : Nat}
    (hn : n ≤ largestNumber) :
    readDigits n cs =
      if largestNumber < numberAfter n (cs.takeWhile Char.isDigit) then .error .tooManyDigits
      else .ok (numberAfter n (cs.takeWhile Char.isDigit), cs.dropWhile Char.isDigit) := by
  induction cs generalizing n with
  | nil =>
    have hsmall : ¬largestNumber < numberAfter n [] := Nat.not_lt.mpr hn
    rw [readDigits, List.takeWhile_nil, if_neg hsmall]
    rfl
  | cons c cs ih =>
    rw [List.forall_mem_cons] at h
    rw [readDigits, decimalDigit?_of_isNameChar h.1]
    by_cases hdigit : c.isDigit = true
    · rw [if_pos hdigit, List.takeWhile_cons_of_pos hdigit, List.dropWhile_cons_of_pos hdigit]
      have hnumber : numberAfter n (c :: cs.takeWhile Char.isDigit) =
          numberAfter (10 * n + (c.toNat - 48)) (cs.takeWhile Char.isDigit) := rfl
      dsimp only
      rw [hnumber]
      by_cases hlarge : largestNumber < 10 * n + (c.toNat - 48)
      · rw [if_pos hlarge, if_pos (Nat.lt_of_lt_of_le hlarge (le_numberAfter _ _))]
      · rw [if_neg hlarge, ih h.2 (Nat.not_lt.mp hlarge)]
    · have hsmall : ¬largestNumber < numberAfter n [] := Nat.not_lt.mpr hn
      rw [if_neg hdigit, List.takeWhile_cons_of_neg hdigit, List.dropWhile_cons_of_neg hdigit,
        if_neg hsmall]
      rfl

/-- The digits at the beginning of a name are read first. -/
lemma readDigits_zero {name : List Char} (h : ∀ c ∈ name, IsNameChar c) :
    readDigits 0 name =
      if largestNumber < leadingNumber name then .error .tooManyDigits
      else .ok (leadingNumber name, name.dropWhile Char.isDigit) :=
  readDigits_word h (Nat.zero_le _)

/-- A name whose first digits denote too large a number is refused. -/
lemma index?_of_large {name : List Char} (h : ∀ c ∈ name, IsNameChar c)
    (hlarge : largestNumber < leadingNumber name) : index? name = .error .tooManyDigits := by
  rw [index?, readNumber, readDigits_zero h, if_pos hlarge]

/-- Digits are a position. -/
lemma index?_of_digits {name : List Char} (h : IsWord name)
    (hsmall : leadingNumber name ≤ largestNumber) (hdigits : ∀ c ∈ name, c.isDigit = true) :
    index? name = .ok (some (leadingNumber name)) := by
  have hrest : name.dropWhile Char.isDigit = [] := List.dropWhile_eq_nil_iff.mpr hdigits
  have hlength : ([] : List Char).length ≠ name.length := by
    simpa using (List.length_pos_iff.mpr h.1).ne
  rw [index?, readNumber, readDigits_zero h.2, if_neg (Nat.not_lt.mpr hsmall), hrest]
  dsimp only
  rw [if_neg hlength]

/-- A name with another character is no position. -/
lemma index?_of_named {name : List Char} (h : ∀ c ∈ name, IsNameChar c)
    (hsmall : leadingNumber name ≤ largestNumber) (hnamed : ∃ c ∈ name, c.isDigit = false) :
    index? name = .ok none := by
  have hrest : name.dropWhile Char.isDigit ≠ [] := by
    rw [ne_eq, List.dropWhile_eq_nil_iff]
    obtain ⟨c, hc, hdigit⟩ := hnamed
    exact fun hall => absurd (hall c hc) (by simp [hdigit])
  rw [index?, readNumber, readDigits_zero h, if_neg (Nat.not_lt.mpr hsmall)]
  cases hdrop : name.dropWhile Char.isDigit with
  | nil => exact absurd hdrop hrest
  | cons c cs => rfl

/-! ### The value of a word -/

/-- A word is its own first part. -/
lemma value_word (ps : Params) {name : List Char} (h : IsWord name) :
    value ps name =
      match index? name with
      | .error e => .error e
      | .ok (some i) => .error (.noPosition i)
      | .ok none =>
        match ps.get? (String.ofList name) with
        | none => .error (.unknownName (String.ofList name))
        | some v => .ok v.toList := by
  have hpart : ∀ c ∈ name, (decide (c ≠ '.') && decide (c ≠ '[')) = true := by
    intro c hc
    obtain ⟨-, -, -, -, hbracket, hdot⟩ := ne_mark_of_isNameChar (h.2 c hc)
    simp [hbracket, hdot]
  have hfirst : (name.takeWhile fun c => c ≠ '.' && c ≠ '[') = name :=
    List.takeWhile_eq_self_iff.mpr hpart
  have hrest : (name.dropWhile fun c => c ≠ '.' && c ≠ '[') = [] :=
    List.dropWhile_eq_nil_iff.mpr hpart
  have hselect (v : List Char) : select v [] = .ok v := by rw [select]
  rw [value, hfirst, hrest, if_neg h.1]
  cases index? name with
  | error e => rfl
  | ok i? =>
    cases i? with
    | some i => rfl
    | none =>
      cases ps.get? (String.ofList name) with
      | none => rfl
      | some v => exact hselect v.toList

/-! ### Scope -/

/-- A field with this name gets a value from every match of a pattern with these parameters. -/
structure InScope (names : List String) (name : List Char) : Prop where
  declared : String.ofList name ∈ names
  named : ∃ c ∈ name, c.isDigit = false
  small : leadingNumber name ≤ largestNumber

/-- `Refuses names name e` holds if a field with this name is not in the scope of the parameters,
and `e` is why. -/
inductive Refuses (names : List String) (name : List Char) : TemplateError → Prop where
  /-- Too large a number outranks everything else, even a parameter of that name. -/
  | large (large : largestNumber < leadingNumber name) : Refuses names name .tooManyDigits
  /-- Digits are a position, even if there is a parameter of that name. -/
  | position (small : leadingNumber name ≤ largestNumber) (digits : ∀ c ∈ name, c.isDigit = true) :
      Refuses names name (.noPosition (leadingNumber name))
  /-- There is no parameter of that name. -/
  | undeclared (small : leadingNumber name ≤ largestNumber) (named : ∃ c ∈ name, c.isDigit = false)
      (undeclared : String.ofList name ∉ names) :
      Refuses names name (.unknownName (String.ofList name))

/-- A field is in scope, or there is a reason why it is not. -/
lemma inScope_or_refuses (names : List String) (name : List Char) :
    InScope names name ∨ ∃ e, Refuses names name e := by
  rcases Nat.lt_or_ge largestNumber (leadingNumber name) with large | small
  · exact .inr ⟨_, .large large⟩
  · by_cases named : ∃ c ∈ name, c.isDigit = false
    · by_cases declared : String.ofList name ∈ names
      · exact .inl ⟨declared, named, small⟩
      · exact .inr ⟨_, .undeclared small named declared⟩
    · exact .inr ⟨_, .position small (by simpa using named)⟩

/-- The parameters have values for these names and for no others. -/
def Binds (ps : Params) (names : List String) : Prop :=
  ∀ n, n ∈ names ↔ ∃ v, ps.get? n = some v

/-- A field in scope has the value that was captured under its name. -/
lemma InScope.value_eq {ps : Params} {names : List String} (hbinds : Binds ps names)
    {name : List Char} (hword : IsWord name) (h : InScope names name) :
    ∃ v, ps.get? (String.ofList name) = some v ∧ value ps name = .ok v.toList := by
  obtain ⟨v, hv⟩ := (hbinds _).mp h.declared
  refine ⟨v, hv, ?_⟩
  rw [value_word ps hword, index?_of_named hword.2 h.small h.named]
  simp only [hv]

/-- A field that is not in scope fails. -/
lemma Refuses.value_eq {ps : Params} {names : List String} (hbinds : Binds ps names)
    {name : List Char} (hword : IsWord name) {e : TemplateError} (h : Refuses names name e) :
    value ps name = .error e := by
  rw [value_word ps hword]
  cases h with
  | large large => rw [index?_of_large hword.2 large]
  | position small digits => rw [index?_of_digits hword small digits]
  | undeclared small named undeclared =>
    have hnone : ps.get? (String.ofList name) = none := by
      rw [Option.eq_none_iff_forall_ne_some]
      exact fun v hv => undeclared ((hbinds _).mpr ⟨v, hv⟩)
    rw [index?_of_named hword.2 small named]
    simp only [hnone]

/-! ### Chunks -/

namespace Chunk

/-- A field is in scope. -/
def InScope (names : List String) : Chunk → Prop
  | text _ => True
  | field name => Template.InScope names name

/-- A field is refused. -/
def Refuses (names : List String) : Chunk → TemplateError → Prop
  | text _, _ => False
  | field name, e => Template.Refuses names name e

/-- A text is filled with itself, a field with the value of its name. -/
def Fills (ps : Params) : Chunk → List Char → Prop
  | text cs, part => part = cs
  | field name, part => ps.get? (String.ofList name) = some (String.ofList part)

lemma inScope_or_refuses (names : List String) (chunk : Chunk) :
    chunk.InScope names ∨ ∃ e, chunk.Refuses names e := by
  cases chunk with
  | text cs => exact .inl trivial
  | field name => exact Template.inScope_or_refuses names name

variable {ps : Params} {names : List String} {chunk : Chunk}

lemma fill_of_inScope (hbinds : Binds ps names) (hplain : chunk.IsPlain)
    (h : chunk.InScope names) : ∃ part, chunk.Fills ps part ∧ chunk.fill ps = .ok part := by
  cases chunk with
  | text cs => exact ⟨cs, rfl, rfl⟩
  | field name =>
    obtain ⟨v, hv, hvalue⟩ := Template.InScope.value_eq hbinds hplain h
    refine ⟨v.toList, ?_, hvalue⟩
    rw [Fills, String.ofList_toList, hv]

lemma fill_of_refuses (hbinds : Binds ps names) (hplain : chunk.IsPlain) {e : TemplateError}
    (h : chunk.Refuses names e) : chunk.fill ps = .error e := by
  cases chunk with
  | text cs => exact absurd h id
  | field name => exact Template.Refuses.value_eq hbinds hplain h

end Chunk

section Filling

variable {ps : Params} {names : List String} {chunks : List Chunk}

/-- Chunks in scope are filled. -/
theorem mapM_fill_of_inScope (hbinds : Binds ps names) (hplain : ∀ chunk ∈ chunks, chunk.IsPlain)
    (h : ∀ chunk ∈ chunks, chunk.InScope names) :
    ∃ parts, List.Forall₂ (Chunk.Fills ps) chunks parts ∧
      chunks.mapM (Chunk.fill ps) = .ok parts := by
  obtain ⟨parts, hparts⟩ := exists_forall₂ fun chunk hmem =>
    Chunk.fill_of_inScope hbinds (hplain chunk hmem) (h chunk hmem)
  exact ⟨parts, hparts.imp fun _ _ hpart => hpart.1,
    mapM_of_forall₂ (fun _ _ hpart => hpart.2) hparts⟩

/-- Otherwise the leftmost field that is not in scope fails. -/
theorem mapM_fill_of_leftmost (hbinds : Binds ps names) (hplain : ∀ chunk ∈ chunks, chunk.IsPlain)
    {e : TemplateError} (h : Leftmost (Chunk.InScope names) (Chunk.Refuses names) chunks e) :
    chunks.mapM (Chunk.fill ps) = .error e := by
  refine mapM_of_leftmost (fun chunk hmem hscope => ?_) (fun chunk hmem hrefuses => ?_) h
  · obtain ⟨part, -, hpart⟩ := Chunk.fill_of_inScope hbinds (hplain chunk hmem) hscope
    exact ⟨part, hpart⟩
  · exact Chunk.fill_of_refuses hbinds (hplain chunk hmem) hrefuses

end Filling

end Template

namespace Pattern

/-- A match binds the names of the parameters. -/
lemma binds_of_match? {p : Pattern} {path : String} {ps : Params} (h : p.match? path = some ps) :
    Template.Binds ps p.paramNames := by
  obtain ⟨-, vs, hfit, -, rfl⟩ := match?_eq_some_iff.mp h
  have hlength : p.paramNames.length = (Segment.valuesAt p.segments vs).length :=
    Segment.length_valuesAt hfit
  intro n
  rw [← Option.isSome_iff_exists, ← OrderedMap.contains, ← OrderedMap.mem_keys_iff,
    OrderedMap.keys_ofList_zip hlength, List.mem_eraseDups]

end Pattern

namespace RouteTable

open Template (Chunk)

variable {route : Route Handler} {chunks : List Chunk}

/-- A template from chunks answers as its chunks are filled. -/
lemma IsFirst.dispatch_writtenAll (hhandler : route.handler = .format (Chunk.writtenAll chunks))
    (hplain : ∀ chunk ∈ chunks, chunk.IsPlain) {t : RouteTable Handler} {method path : String}
    {index : Nat} {ps : Params} (h : t.IsFirst method path ⟨index, route, ps⟩) (rs : Recorders)
    (missed : Outcome) :
    t.dispatch (fun h ps => h.invoke ps rs) missed (.text method) (.text path) =
      match chunks.mapM (Chunk.fill ps) with
      | .ok parts => (.ok (.value (.text (String.ofList parts.flatten))), rs)
      | .error e => (.error (.template e), rs) := by
  rw [h.dispatch_eq]
  dsimp only
  rw [hhandler, Handler.invoke, Template.fill_writtenAll ps hplain]
  cases chunks.mapM (Chunk.fill ps) <;> rfl

/-- **A template answers exactly when its fields are in scope.** -/
theorem dispatch_format (hhandler : route.handler = .format (Chunk.writtenAll chunks))
    (hplain : ∀ chunk ∈ chunks, chunk.IsPlain) :
    ((∀ chunk ∈ chunks, chunk.InScope route.pattern.paramNames) →
      ∀ (t : RouteTable Handler) (method path : String) (index : Nat) (ps : Params),
        t.IsFirst method path ⟨index, route, ps⟩ →
          ∃ parts, List.Forall₂ (Chunk.Fills ps) chunks parts ∧
            ∀ (rs : Recorders) (missed : Outcome),
              t.dispatch (fun h ps => h.invoke ps rs) missed (.text method) (.text path) =
                (.ok (.value (.text (String.ofList parts.flatten))), rs)) ∧
    ((¬∀ chunk ∈ chunks, chunk.InScope route.pattern.paramNames) →
      ∃ e, Leftmost (Chunk.InScope route.pattern.paramNames)
          (Chunk.Refuses route.pattern.paramNames) chunks e ∧
        ∀ (t : RouteTable Handler) (method path : String) (index : Nat) (ps : Params),
          t.IsFirst method path ⟨index, route, ps⟩ →
            ∀ (rs : Recorders) (missed : Outcome),
              t.dispatch (fun h ps => h.invoke ps rs) missed (.text method) (.text path) =
                (.error (.template e), rs)) := by
  constructor
  · intro hscope t method path index ps hfirst
    obtain ⟨parts, hparts, hfill⟩ :=
      Template.mapM_fill_of_inScope (Pattern.binds_of_match? hfirst.captures) hplain hscope
    refine ⟨parts, hparts, fun rs missed => ?_⟩
    rw [hfirst.dispatch_writtenAll hhandler hplain, hfill]
  · intro hscope
    have hsplit := forall_or_leftmost fun chunk (_ : chunk ∈ chunks) =>
      Chunk.inScope_or_refuses route.pattern.paramNames chunk
    obtain ⟨e, hleftmost⟩ := hsplit.resolve_left hscope
    refine ⟨e, hleftmost, fun t method path index ps hfirst rs missed => ?_⟩
    have hfill := Template.mapM_fill_of_leftmost (Pattern.binds_of_match? hfirst.captures) hplain
      hleftmost
    rw [hfirst.dispatch_writtenAll hhandler hplain, hfill]

/-- A field between doubled braces gets the captured value.  A field whose name is a number gets
none, although the pattern has a parameter of that name. -/
theorem dispatch_format_user :
    let byId : Route Handler := ⟨"GET", ⟨"/user/:id(int)", [.literal "user", .param "id" .int]⟩,
      .format "\x7b\x7b\x7bid\x7d\x7d\x7d"⟩
    let byNumber : Route Handler := ⟨"GET", ⟨"/:0(int)", [.param "0" .int]⟩, .format "\x7b0\x7d"⟩
    let t : RouteTable Handler := ⟨[byId, byNumber], false⟩
    t.dispatch (fun h ps => h.invoke ps ∅) (.ok .notFound, ∅) (.text "GET") (.text "/user/42") =
      (.ok (.value (.text "\x7b42\x7d")), ∅) ∧
    t.dispatch (fun h ps => h.invoke ps ∅) (.ok .notFound, ∅) (.text "GET") (.text "/7") =
      (.error (.template (.noPosition 0)), ∅) := by
  intro byId byNumber t
  have hfirstId : t.IsFirst "GET" "/user/42" ⟨0, byId, .ofList [("id", "42")]⟩ :=
    ⟨rfl, rfl, by decide +kernel, fun j _ hj => absurd hj (Nat.not_lt_zero j)⟩
  have hfirstNumber : t.IsFirst "GET" "/7" ⟨1, byNumber, .ofList [("0", "7")]⟩ := by
    refine ⟨rfl, rfl, by decide +kernel, fun j r hj hr _ => ?_⟩
    obtain rfl : j = 0 := Nat.lt_one_iff.mp hj
    obtain rfl : byId = r := Option.some_inj.mp hr
    decide +kernel
  have hhandlerId : byId.handler =
      .format (Chunk.writtenAll [.text ['\x7b'], .field ['i', 'd'], .text ['\x7d']]) :=
    congrArg Handler.format (by decide +kernel)
  have hhandlerNumber : byNumber.handler = .format (Chunk.writtenAll [.field ['0']]) :=
    congrArg Handler.format (by decide +kernel)
  constructor
  · have hword : Segment.IsWord ['i', 'd'] := by decide
    have hscope : Template.InScope byId.pattern.paramNames ['i', 'd'] :=
      ⟨by decide +kernel, ⟨'i', by decide, by decide⟩, by decide⟩
    obtain ⟨hfilled, -⟩ := dispatch_format hhandlerId (by simpa [Chunk.IsPlain] using hword)
    obtain ⟨parts, hparts, hanswer⟩ :=
      hfilled (by simpa [Chunk.InScope] using hscope) t "GET" "/user/42" 0 _ hfirstId
    obtain ⟨part, hvalue, rfl⟩ : ∃ part, OrderedMap.get? (.ofList [("id", "42")]) "id" =
        some (String.ofList part) ∧ parts = [['\x7b'], part, ['\x7d']] := by
      simpa [Chunk.Fills, List.forall₂_cons_left_iff] using hparts
    have hpart : part = ['4', '2'] := by
      have htext : "42" = String.ofList part := Option.some_inj.mp hvalue
      rw [← String.toList_ofList (l := part), ← htext]
      decide
    rw [hanswer, hpart]
    rfl
  · have hword : Segment.IsWord ['0'] := by decide
    have hdigits : ∀ c ∈ ['0'], c.isDigit = true := List.all_eq_true.mp (by decide)
    have hscope : ¬Template.InScope byNumber.pattern.paramNames ['0'] := by
      rintro ⟨-, ⟨c, hc, hdigit⟩, -⟩
      simp [hdigits c hc] at hdigit
    obtain ⟨-, hrefused⟩ := dispatch_format hhandlerNumber (by simpa [Chunk.IsPlain] using hword)
    obtain ⟨e, ⟨before, chunk, after, hsplit, hbefore, hrefuses⟩, hanswer⟩ :=
      hrefused (by simpa [Chunk.InScope] using hscope)
    obtain ⟨rfl, rfl, rfl⟩ : before = [] ∧ chunk = .field ['0'] ∧ after = [] := by
      simpa [List.cons_eq_append_iff] using hsplit
    rw [hanswer t "GET" "/7" 1 _ hfirstNumber]
    cases hrefuses with
    | large large => exact absurd large (by decide)
    | position small digits => rfl
    | undeclared small named undeclared =>
      obtain ⟨c, hc, hdigit⟩ := named
      simp [hdigits c hc] at hdigit

/-- That a name is a parameter and holds a letter is not enough: the number before the letter can
be too large. -/
theorem declared_field_fails :
    let name := "99999999999999999999a"
    let route : Route Handler := ⟨"GET", ⟨"/:99999999999999999999a(int)", [.param name .int]⟩,
      .format "\x7b99999999999999999999a\x7d"⟩
    let t : RouteTable Handler := ⟨[route], false⟩
    (∅ : RouteTable Handler).register route.method route.pattern.source route.handler = .ok t ∧
    route.handler = .format (Chunk.writtenAll [.field name.toList]) ∧ Segment.IsWord name.toList ∧
    t.IsFirst "GET" "/7" ⟨0, route, .ofList [(name, "7")]⟩ ∧
    name ∈ route.pattern.paramNames ∧ (∃ c ∈ name.toList, c.isDigit = false) ∧
    t.dispatch (fun h ps => h.invoke ps ∅) (.ok .notFound, ∅) (.text "GET") (.text "/7") =
      (.error (.template .tooManyDigits), ∅) := by
  intro name route t
  have hcompile : Pattern.compile route.pattern.source = .ok route.pattern := by decide +kernel
  have hhandler : route.handler = .format (Chunk.writtenAll [.field name.toList]) :=
    congrArg Handler.format (by decide +kernel)
  have hword : Segment.IsWord name.toList := by decide +kernel
  have hfirst : t.IsFirst "GET" "/7" ⟨0, route, .ofList [(name, "7")]⟩ :=
    ⟨rfl, rfl, by decide +kernel, fun j _ hj => absurd hj (Nat.not_lt_zero j)⟩
  have hrefuses : Chunk.Refuses route.pattern.paramNames (.field name.toList) .tooManyDigits :=
    Template.Refuses.large (by decide +kernel)
  have hplain : Chunk.IsPlain (.field name.toList) := hword
  have hfill : [Chunk.field name.toList].mapM (Chunk.fill (.ofList [(name, "7")])) =
      .error .tooManyDigits :=
    mapM_cons_of_error
      (Chunk.fill_of_refuses (Pattern.binds_of_match? hfirst.captures) hplain hrefuses) []
  refine ⟨?_, hhandler, hword, hfirst, by decide +kernel, ⟨'a', by decide +kernel, by decide⟩, ?_⟩
  · rw [register, if_neg (by decide), hcompile]
    rfl
  · rw [hfirst.dispatch_writtenAll hhandler (by simpa [Chunk.IsPlain] using hword), hfill]

end RouteTable

end PathRouter
