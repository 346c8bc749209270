import PathRouter.Proofs.Expression.Reading
import PathRouter.Proofs.Pattern.Compilation

/-!
# A pattern agrees with its expression

The regular expression of a pattern is matched against a whole path without looking at segments.
This file shows that it matches the same paths as the pattern and captures the same values
(`Pattern.match?_agrees_with_expression`).

The parts of an expression are read one after the other, each with the text before it.  For the
parts of a segment this amounts to reading one piece that fits (`Expression.partsRead_parts_iff`),
and for those of a list of segments to reading pieces that fit, with slashes between them
(`Expression.partsRead_partsAll_iff`).
-/

namespace PathRouter

namespace Expression

variable {ps : List Part} {before w : List Char} {captures : List (List Char)}

/-! ### Reading one part -/

lemma reads_only_iff {c : Char} {v after : List Char} :
    (Item.one (.only c)).Reads before v after ↔ v = [c] := by
  have hhas : ∀ d, (CharSet.only c).has d = true ↔ d = c := by
    intro d
    simp only [CharSet.only, CharSet.has, List.any_cons, List.any_nil, Bool.or_false,
      Bool.and_eq_true, decide_eq_true_eq]
    exact ⟨fun h => Char.le_antisymm h.2 h.1, fun h => h ▸ ⟨Char.le_refl _, Char.le_refl _⟩⟩
  simp [Item.Reads, hhas]

lemma partsRead_only_iff {c : Char} :
    PartsRead (.item (.one (.only c)) :: ps) before w captures ↔
      ∃ rest, w = c :: rest ∧ PartsRead ps (before ++ [c]) rest captures := by
  constructor
  · intro h
    cases h with
    | item head tail =>
      obtain rfl := reads_only_iff.mp head
      exact ⟨_, rfl, tail⟩
  · rintro ⟨rest, rfl, tail⟩
    exact .item (reads_only_iff.mpr rfl) tail

lemma partsRead_start_iff :
    PartsRead (.item .start :: ps) before w captures ↔
      before = [] ∧ PartsRead ps before w captures := by
  constructor
  · intro h
    cases h with
    | item head tail =>
      obtain ⟨rfl, rfl⟩ := head
      exact ⟨rfl, tail⟩
  · rintro ⟨rfl, tail⟩
    exact .item (v := []) ⟨rfl, rfl⟩ tail

lemma partsRead_finish_iff :
    PartsRead [.item .finish] before w captures ↔ w = [] ∧ captures = [] := by
  constructor
  · intro h
    cases h with
    | item head tail =>
      obtain ⟨rfl, rfl⟩ := head
      cases tail
      exact ⟨rfl, rfl⟩
  · rintro ⟨rfl, rfl⟩
    exact .item (v := []) ⟨rfl, rfl⟩ .nil

lemma itemsRead_many_iff {s : CharSet} {v after : List Char} :
    ItemsRead [.many s] before v after ↔ v ≠ [] ∧ ∀ c ∈ v, s.has c = true := by
  constructor
  · intro h
    cases h with
    | cons head tail =>
      cases tail
      rw [List.append_nil]
      exact head
  · intro h
    have hread : ItemsRead [.many s] before (v ++ []) after := .cons h .nil
    rwa [List.append_nil] at hread

lemma partsRead_group_iff {s : CharSet} :
    PartsRead (.group [.many s] :: ps) before w captures ↔
      ∃ v rest cs, w = v ++ rest ∧ captures = v :: cs ∧ (v ≠ [] ∧ ∀ c ∈ v, s.has c = true) ∧
        PartsRead ps (before ++ v) rest cs := by
  constructor
  · intro h
    cases h with
    | group head tail => exact ⟨_, _, _, rfl, rfl, itemsRead_many_iff.mp head, tail⟩
  · rintro ⟨v, rest, cs, rfl, rfl, hv, tail⟩
    exact .group (itemsRead_many_iff.mpr hv) tail

/-! ### Reading segments -/

lemma partsRead_text_iff {t : List Char} :
    PartsRead (t.map (fun c => .item (.one (.only c))) ++ ps) before w captures ↔
      ∃ rest, w = t ++ rest ∧ PartsRead ps (before ++ t) rest captures := by
  induction t generalizing before w with
  | nil => simp
  | cons c t ih =>
    rw [List.map_cons, List.cons_append, partsRead_only_iff]
    constructor
    · rintro ⟨u, rfl, hu⟩
      obtain ⟨rest, rfl, htail⟩ := ih.mp hu
      exact ⟨rest, rfl, by simpa using htail⟩
    · rintro ⟨rest, rfl, htail⟩
      exact ⟨t ++ rest, rfl, ih.mpr ⟨rest, rfl, by simpa using htail⟩⟩

/-- The parts of a segment read one piece that fits; a parameter captures it. -/
theorem partsRead_parts_iff {s : Segment} :
    PartsRead (s.parts ++ ps) before w captures ↔
      ∃ v rest cs, w = v.toList ++ rest ∧ s.accepts v = true ∧
        captures = (Segment.valuesAt [s] [v]).map String.toList ++ cs ∧
        PartsRead ps (before ++ v.toList) rest cs := by
  cases s with
  | literal t =>
    rw [Segment.parts, partsRead_text_iff]
    constructor
    · rintro ⟨rest, rfl, htail⟩
      exact ⟨t, rest, captures, rfl, Segment.accepts_literal.mpr rfl, rfl, htail⟩
    · rintro ⟨v, rest, cs, rfl, hv, rfl, htail⟩
      obtain rfl := Segment.accepts_literal.mp hv
      exact ⟨rest, rfl, htail⟩
  | param n k =>
    rw [Segment.parts, List.singleton_append, partsRead_group_iff]
    constructor
    · rintro ⟨v, rest, cs, rfl, rfl, ⟨hne, hv⟩, htail⟩
      refine ⟨String.ofList v, rest, cs, by simp, ?_, by simp [Segment.valuesAt], by simpa⟩
      rw [Segment.accepts_param, ParamKind.accepts_iff, ParamKind.IsValue]
      simpa [ParamKind.has_charSet] using And.intro hne hv
    · rintro ⟨v, rest, cs, rfl, hv, rfl, htail⟩
      rw [Segment.accepts_param, ParamKind.accepts_iff, ParamKind.IsValue] at hv
      exact ⟨v.toList, rest, cs, rfl, rfl, by simpa [ParamKind.has_charSet] using hv, htail⟩

/-- The parts of segments read pieces that fit, with slashes between them, and capture those at the
parameters. -/
theorem partsRead_partsAll_iff {ss : List Segment} :
    PartsRead (Segment.partsAll ss ++ [.item .finish]) before w captures ↔
      ∃ vs, Segment.Fit ss vs ∧ w = Text.joinWith '/' (vs.map String.toList) ∧
        captures = (Segment.valuesAt ss vs).map String.toList := by
  induction ss generalizing before w captures with
  | nil =>
    rw [Segment.partsAll, List.nil_append, partsRead_finish_iff]
    constructor
    · rintro ⟨rfl, rfl⟩
      exact ⟨[], Segment.fit_nil, rfl, rfl⟩
    · rintro ⟨vs, hfit, rfl, rfl⟩
      obtain rfl := List.forall₂_nil_left_iff.mp hfit
      exact ⟨rfl, rfl⟩
  | cons s ss ih =>
    cases ss with
    | nil =>
      rw [Segment.partsAll, partsRead_parts_iff]
      constructor
      · rintro ⟨v, rest, cs, rfl, hv, rfl, htail⟩
        obtain ⟨rfl, rfl⟩ := partsRead_finish_iff.mp htail
        exact ⟨[v], Segment.fit_cons.mpr ⟨hv, Segment.fit_nil⟩, by simp [Text.joinWith], by simp⟩
      · rintro ⟨vs, hfit, rfl, rfl⟩
        obtain ⟨v, us, hv, hus, rfl⟩ := List.forall₂_cons_left_iff.mp hfit
        obtain rfl := List.forall₂_nil_left_iff.mp hus
        exact ⟨v, [], [], by simp [Text.joinWith], hv, by simp,
          partsRead_finish_iff.mpr ⟨rfl, rfl⟩⟩
    | cons t ss =>
      rw [Segment.partsAll, List.append_assoc, List.cons_append, partsRead_parts_iff]
      constructor
      · rintro ⟨v, rest, cs, rfl, hv, rfl, htail⟩
        obtain ⟨u, rfl, hu⟩ := partsRead_only_iff.mp htail
        obtain ⟨vs, hfit, rfl, rfl⟩ := ih.mp hu
        obtain ⟨v', us, hv', hus, rfl⟩ := List.forall₂_cons_left_iff.mp hfit
        refine ⟨v :: v' :: us, Segment.fit_cons.mpr ⟨hv, hfit⟩, rfl, ?_⟩
        rw [Segment.valuesAt_cons s (t :: ss), List.map_append]
      · rintro ⟨vs, hfit, rfl, rfl⟩
        obtain ⟨v, us, hv, hus, rfl⟩ := List.forall₂_cons_left_iff.mp hfit
        obtain ⟨v', us, hv', hrest, rfl⟩ := List.forall₂_cons_left_iff.mp hus
        refine ⟨v, '/' :: Text.joinWith '/' ((v' :: us).map String.toList),
          (Segment.valuesAt (t :: ss) (v' :: us)).map String.toList, rfl, hv, ?_, ?_⟩
        · rw [Segment.valuesAt_cons s (t :: ss), List.map_append]
        · exact partsRead_only_iff.mpr ⟨_, rfl, ih.mpr ⟨v' :: us, hus, rfl, rfl⟩⟩

end Expression

namespace Pattern

/-- The expression matches the paths made of pieces that fit, and captures those at the
parameters. -/
theorem matches_parts_iff {p : Pattern} {path : String} {captures : List (List Char)} :
    Expression.Matches p.parts path.toList captures ↔
      ∃ vs, Segment.Fit p.segments vs ∧ path = pathOf vs ∧
        captures = (Segment.valuesAt p.segments vs).map String.toList := by
  rw [Expression.Matches, parts, Expression.partsRead_start_iff, Expression.partsRead_only_iff]
  constructor
  · rintro ⟨-, rest, hpath, htail⟩
    obtain ⟨vs, hfit, rfl, hcaptures⟩ := Expression.partsRead_partsAll_iff.mp htail
    exact ⟨vs, hfit, String.toList_inj.mp (by simp [pathOf, hpath]), hcaptures⟩
  · rintro ⟨vs, hfit, rfl, hcaptures⟩
    exact ⟨rfl, _, by simp [pathOf],
      Expression.partsRead_partsAll_iff.mpr ⟨vs, hfit, rfl, hcaptures⟩⟩

/-- **A pattern agrees with its expression.**  The expression of a pattern can be read; if the
pattern has segments and no literal of it holds a slash, as after compiling, then the expression
matches the same paths, in one way only, and captures what the names of the pattern capture. -/
theorem match?_agrees_with_expression :
    (∀ source p, compile source = .ok p → p.IsSlashFree) ∧
    ∀ p : Pattern, p.IsSlashFree →
      ∃ e, Expression.read? p.expression.toList = some e ∧ ∀ path : String,
        ((p.match? path).isSome ↔ ∃ captures, Expression.Matches e path.toList captures) ∧
        ∀ captures, Expression.Matches e path.toList captures →
          (∀ others, Expression.Matches e path.toList others → others = captures) ∧
          ∃ ps, p.match? path = some ps ∧
            ps = .ofList (p.paramNames.zip (captures.map String.ofList)) ∧
            ps.keys = p.paramNames.eraseDups ∧
            ∀ (i : Nat) (n : String), p.paramNames[i]? = some n →
              n ∉ p.paramNames.drop (i + 1) → ps.get? n = captures[i]?.map String.ofList := by
  refine ⟨fun source p h => isSlashFree_of_compile h, fun p hp => ⟨p.parts, read?_expression p, ?_⟩⟩
  intro path
  constructor
  · rw [Option.isSome_iff_exists]
    constructor
    · rintro ⟨ps, hps⟩
      obtain ⟨-, vs, hfit, hpath, -⟩ := match?_eq_some_iff.mp hps
      exact ⟨_, matches_parts_iff.mpr ⟨vs, hfit, hpath, rfl⟩⟩
    · rintro ⟨captures, hcaptures⟩
      obtain ⟨vs, hfit, hpath, -⟩ := matches_parts_iff.mp hcaptures
      exact ⟨_, match?_eq_some_iff.mpr ⟨hp, vs, hfit, hpath, rfl⟩⟩
  · intro captures hcaptures
    obtain ⟨vs, hfit, hpath, rfl⟩ := matches_parts_iff.mp hcaptures
    have hlen : p.paramNames.length = (Segment.valuesAt p.segments vs).length :=
      Segment.length_valuesAt hfit
    constructor
    · intro others hothers
      obtain ⟨us, hus, hpath', rfl⟩ := matches_parts_iff.mp hothers
      rw [fit_unique hp hus hfit (hpath'.symm.trans hpath)]
    · refine ⟨_, match?_eq_some_iff.mpr ⟨hp, vs, hfit, hpath, rfl⟩, by simp, ?_, ?_⟩
      · exact OrderedMap.keys_ofList_zip hlen
      · intro i n hi hlast
        rw [OrderedMap.get?_ofList_zip hlen hi hlast]
        simp

/-- A literal of metacharacters stands for itself in the expression. -/
theorem match?_agrees_with_expression_sum :
    let p : Pattern := ⟨"/a+(b)/:id(int)", [.literal "a+(b)", .param "id" .int]⟩
    p.IsSlashFree ∧ p.expression = "^/a\\+\\(b\\)/(\\d+)$" ∧
      ∃ e captures ps, Expression.read? p.expression.toList = some e ∧
        Expression.Matches e "/a+(b)/42".toList captures ∧ p.match? "/a+(b)/42" = some ps ∧
        ps.keys = ["id"] ∧ ps.get? "id" = captures[0]?.map String.ofList := by
  intro p
  obtain ⟨hcompiled, hagrees⟩ := match?_agrees_with_expression
  have hp : p.IsSlashFree := hcompiled "/a+(b)/:id(int)" p (by decide +kernel)
  obtain ⟨e, hread, hpaths⟩ := hagrees p hp
  obtain ⟨hiff, hcaptures⟩ := hpaths "/a+(b)/42"
  obtain ⟨captures, hmatches⟩ := hiff.mp (by decide +kernel)
  obtain ⟨-, ps, hps, -, hkeys, hvalues⟩ := hcaptures captures hmatches
  exact ⟨hp, by decide +kernel, e, captures, ps, hread, hmatches, hps, hkeys,
    hvalues 0 "id" rfl (by decide)⟩

end Pattern

end PathRouter
