import Mathlib.Data.List.Forall2
import PathRouter.Proofs.Pattern.Matching
import PathRouter.Proofs.Segment.Spelling
import PathRouter.Proofs.Text.Trimming

/-!
# Compiling follows the grammar

The source of a pattern is cut into pieces, and each piece is read as a segment.  The compiler
succeeds exactly when every piece spells a segment, and then these are the segments of the pattern.
Otherwise it fails with the leftmost piece that spells none (`Pattern.compile_follows_grammar`).

From this, `Pattern.isSlashFree_of_compile` draws what matching needs of a compiled pattern.
-/

namespace PathRouter

namespace Segment

/-- The leftmost piece that spells no segment is `cs`, and `f` is what is wrong with it. -/
def LeftmostFault (pieces : List (List Char)) (cs : List Char) (f : Fault) : Prop :=
  ∃ before after, pieces = before ++ cs :: after ∧ (∀ ds ∈ before, ∃ s, Spells ds s) ∧ Faults cs f

/-- A piece that spells a segment leaves the outcome to the others. -/
lemma parseAll_cons_of_spells {source : String} {cs : List Char} {s : Segment} (h : Spells cs s)
    (rest : List (List Char)) :
    parseAll source (cs :: rest) = (parseAll source rest).map (s :: ·) := by
  rw [parseAll, parse_of_spells h]
  cases parseAll source rest <;> rfl

/-- A piece with a fault decides the outcome. -/
lemma parseAll_cons_of_faults {source : String} {cs : List Char} {f : Fault} (h : Faults cs f)
    (rest : List (List Char)) :
    parseAll source (cs :: rest) = .error (.invalidSegment source (String.ofList cs) f) := by
  rw [parseAll, parse_of_faults h]

/-- Pieces are read when each spells its segment. -/
theorem parseAll_eq_ok_iff {source : String} {pieces : List (List Char)} {ss : List Segment} :
    parseAll source pieces = .ok ss ↔ List.Forall₂ Spells pieces ss := by
  induction pieces generalizing ss with
  | nil => simp [parseAll, eq_comm]
  | cons cs rest ih =>
    rw [List.forall₂_cons_left_iff]
    constructor
    · intro h
      rcases parse_spells_or_faults cs with ⟨s, -, hs⟩ | ⟨f, -, hf⟩
      · rw [parseAll_cons_of_spells hs] at h
        cases hrest : parseAll source rest with
        | error e => simp [hrest, Except.map] at h
        | ok us =>
          rw [hrest, Except.map, Except.ok.injEq] at h
          exact ⟨s, us, hs, ih.mp hrest, h.symm⟩
      · simp [parseAll_cons_of_faults hf] at h
    · rintro ⟨s, us, hs, hus, rfl⟩
      rw [parseAll_cons_of_spells hs, ih.mpr hus]
      rfl

/-- The first piece counts before all others. -/
lemma leftmostFault_cons {cs ds : List Char} {rest : List (List Char)} {f : Fault} :
    LeftmostFault (cs :: rest) ds f ↔
      (ds = cs ∧ Faults cs f) ∨ ((∃ s, Spells cs s) ∧ LeftmostFault rest ds f) := by
  constructor
  · rintro ⟨before, after, hpieces, hbefore, hfault⟩
    cases before with
    | nil =>
      rw [List.nil_append, List.cons.injEq] at hpieces
      exact .inl ⟨hpieces.1.symm, hpieces.1 ▸ hfault⟩
    | cons b before =>
      rw [List.cons_append, List.cons.injEq] at hpieces
      obtain ⟨rfl, hrest⟩ := hpieces
      rw [List.forall_mem_cons] at hbefore
      exact .inr ⟨hbefore.1, before, after, hrest, hbefore.2, hfault⟩
  · rintro (⟨rfl, hfault⟩ | ⟨hspells, before, after, rfl, hbefore, hfault⟩)
    · exact ⟨[], rest, rfl, by simp, hfault⟩
    · exact ⟨cs :: before, after, rfl, List.forall_mem_cons.mpr ⟨hspells, hbefore⟩, hfault⟩

/-- Reading pieces fails with the leftmost fault. -/
theorem parseAll_eq_error_iff {source : String} {pieces : List (List Char)} {e : RouterError} :
    parseAll source pieces = .error e ↔
      ∃ cs f, LeftmostFault pieces cs f ∧ e = .invalidSegment source (String.ofList cs) f := by
  induction pieces with
  | nil => simp [parseAll, LeftmostFault]
  | cons cs rest ih =>
    simp only [leftmostFault_cons]
    rcases parse_spells_or_faults cs with ⟨s, -, hs⟩ | ⟨f, hparse, hf⟩
    · have hnot : ∀ g, ¬Faults cs g := fun g hg =>
        exists_spells_iff_not_faults.mp ⟨s, hs⟩ ⟨g, hg⟩
      have hstep : parseAll source (cs :: rest) = .error e ↔ parseAll source rest = .error e := by
        rw [parseAll_cons_of_spells hs]
        cases parseAll source rest <;> simp [Except.map]
      rw [hstep, ih]
      constructor
      · rintro ⟨ds, g, hleft, he⟩
        exact ⟨ds, g, .inr ⟨⟨s, hs⟩, hleft⟩, he⟩
      · rintro ⟨ds, g, ⟨-, hg⟩ | ⟨-, hleft⟩, he⟩
        · exact absurd hg (hnot g)
        · exact ⟨ds, g, hleft, he⟩
    · rw [parseAll_cons_of_faults hf, Except.error.injEq]
      constructor
      · rintro rfl
        exact ⟨cs, f, .inl ⟨rfl, hf⟩, rfl⟩
      · rintro ⟨ds, g, ⟨rfl, hg⟩ | ⟨hspells, -⟩, rfl⟩
        · rw [parse_of_faults hg, Except.error.injEq] at hparse
          rw [hparse]
        · exact absurd ⟨f, hf⟩ (exists_spells_iff_not_faults.mp hspells)

/-- Every segment that is read comes from one of the pieces. -/
lemma exists_mem_spells {pieces : List (List Char)} {ss : List Segment}
    (h : List.Forall₂ Spells pieces ss) {s : Segment} (hs : s ∈ ss) :
    ∃ cs ∈ pieces, Spells cs s := by
  induction h with
  | nil => simp at hs
  | @cons cs t pieces ss hspells _ ih =>
    rcases List.mem_cons.mp hs with rfl | hs
    · exact ⟨cs, by simp, hspells⟩
    · obtain ⟨ds, hds, hd⟩ := ih hs
      exact ⟨ds, List.mem_cons_of_mem cs hds, hd⟩

end Segment

namespace Pattern

/-- The pieces between the slashes of a pattern, without the slashes at both ends. -/
def cut (source : String) : List (List Char) :=
  Text.splitOn '/' (Text.trimEnds '/' source.toList)

/-- The pieces make up the source, except for the slashes at both ends. -/
lemma eq_replicate_append_cut (source : String) :
    ∃ m n, source.toList =
      List.replicate m '/' ++ Text.joinWith '/' (cut source) ++ List.replicate n '/' := by
  rw [cut, Text.joinWith_splitOn]
  exact Text.eq_replicate_append_trimEnds '/' source.toList

/-- A pattern that compiles keeps its source, and its pieces spell its segments. -/
theorem compile_eq_ok_iff {source : String} {p : Pattern} :
    compile source = .ok p ↔
      p.source = source ∧ List.Forall₂ Segment.Spells (cut source) p.segments := by
  have hparse : Segment.parseAll source (cut source) = .ok p.segments ↔
      List.Forall₂ Segment.Spells (cut source) p.segments := Segment.parseAll_eq_ok_iff
  rw [← hparse, compile, cut]
  split
  · rename_i e he
    simp [he]
  · rename_i ss hss
    rw [hss, Except.ok.injEq, Except.ok.injEq]
    constructor
    · rintro rfl
      exact ⟨rfl, rfl⟩
    · rintro ⟨rfl, rfl⟩
      rfl

/-- A pattern that does not compile has a piece that spells nothing. -/
theorem compile_eq_error_iff {source : String} {e : RouterError} :
    compile source = .error e ↔
      ∃ cs f, Segment.LeftmostFault (cut source) cs f ∧
        e = .invalidSegment source (String.ofList cs) f := by
  rw [← Segment.parseAll_eq_error_iff, compile, cut]
  split
  · rename_i e' he
    rw [he, Except.error.injEq, Except.error.injEq]
  · rename_i ss hss
    simp [hss]

/-- A compiled pattern has segments, and no literal of it holds a slash. -/
theorem isSlashFree_of_compile {source : String} {p : Pattern} (h : compile source = .ok p) :
    p.IsSlashFree := by
  obtain ⟨-, hspells⟩ := compile_eq_ok_iff.mp h
  constructor
  · intro hnil
    rw [hnil] at hspells
    exact Text.splitOn_ne_nil _ _ (List.forall₂_nil_right_iff.mp hspells)
  · intro t ht
    obtain ⟨cs, hcs, hliteral⟩ := Segment.exists_mem_spells hspells ht
    cases hliteral
    rw [String.toList_ofList]
    exact Text.not_mem_of_mem_splitOn hcs

/-- Compiling fails only where some piece spells no segment. -/
lemma exists_compile_iff (source : String) :
    (∃ p, compile source = .ok p) ↔ ∀ cs ∈ cut source, ∃ s, Segment.Spells cs s := by
  constructor
  · rintro ⟨p, hp⟩ cs hcs
    obtain ⟨-, hspells⟩ := compile_eq_ok_iff.mp hp
    obtain ⟨i, hi, rfl⟩ := List.getElem_of_mem hcs
    have hi' : i < p.segments.length := hspells.length_eq ▸ hi
    exact ⟨p.segments[i], by simpa using hspells.get hi hi'⟩
  · intro h
    cases hc : compile source with
    | ok p => exact ⟨p, rfl⟩
    | error e =>
      obtain ⟨cs, f, ⟨before, after, hpieces, -, hfault⟩, -⟩ := compile_eq_error_iff.mp hc
      have hmem : cs ∈ cut source := by simp [hpieces]
      exact absurd ⟨f, hfault⟩ (Segment.exists_spells_iff_not_faults.mp (h cs hmem))

/-- **Compiling follows the grammar.**  The pieces of the source are its text between slashes.  If
all of them spell segments, these are the segments of the pattern; if not, the leftmost piece that
spells none is reported with what is wrong with it. -/
theorem compile_follows_grammar (source : String) :
    ((∃ m n, source.toList =
        List.replicate m '/' ++ Text.joinWith '/' (cut source) ++ List.replicate n '/') ∧
      (∀ cs ∈ cut source, '/' ∉ cs) ∧
      (cut source = [[]] ∨ ((cut source).head? ≠ some [] ∧ (cut source).getLast? ≠ some []))) ∧
    ((∃ p, compile source = .ok p) ↔ ∀ cs ∈ cut source, ∃ s, Segment.Spells cs s) ∧
    (∀ p, compile source = .ok p ↔
      p.source = source ∧ List.Forall₂ Segment.Spells (cut source) p.segments) ∧
    (∀ p, compile source = .ok p → p.paramNames = p.segments.filterMap Segment.name?) ∧
    (∀ e, compile source = .error e ↔
      ∃ cs f, Segment.LeftmostFault (cut source) cs f ∧
        e = .invalidSegment source (String.ofList cs) f) ∧
    (Segment.Fault.notAscii.reason = "parameter segments must be ASCII" ∧
      Segment.Fault.malformed.reason = "expected ':<name>(int)' or ':<name>(string)'" ∧
      ∀ kind : List Char, (∀ c ∈ kind, Segment.IsNameChar c) →
        (Segment.Fault.unsupportedKind (String.ofList kind)).reason =
          "unsupported parameter type '" ++ String.ofList kind ++
            "' (supported: int, string)") := by
  refine ⟨⟨?_, ?_, ?_⟩, ?_, ?_, ?_, ?_, rfl, rfl, ?_⟩
  · exact eq_replicate_append_cut source
  · exact fun cs hcs => Text.not_mem_of_mem_splitOn hcs
  · exact Text.splitOn_trimEnds_ends '/' source.toList
  · exact exists_compile_iff source
  · exact fun p => compile_eq_ok_iff
  · exact fun p _ => rfl
  · exact fun e => compile_eq_error_iff
  · exact fun kind hkind => Segment.reason_unsupportedKind hkind

/-- A pattern that compiles, and one of whose faults the one further left is reported. -/
theorem compile_follows_grammar_user :
    (∃ p, compile "/user/:id(int)/" = .ok p ∧
      p.segments = [.literal "user", .param "id" .int] ∧ p.paramNames = ["id"]) ∧
    compile "/:a(int)/:b(float)/:c" =
      .error (.invalidSegment "/:a(int)/:b(float)/:c" ":b(float)" (.unsupportedKind "float")) ∧
    (Segment.Fault.unsupportedKind "float").reason =
      "unsupported parameter type 'float' (supported: int, string)" := by
  obtain ⟨-, -, hok, hnames, -⟩ := compile_follows_grammar "/user/:id(int)/"
  obtain ⟨-, -, -, -, herror, -, -, hreason⟩ := compile_follows_grammar "/:a(int)/:b(float)/:c"
  refine ⟨⟨⟨"/user/:id(int)/", [.literal "user", .param "id" .int]⟩, ?_⟩, ?_, ?_⟩
  · have hcut : cut "/user/:id(int)/" = ["user".toList, ":id(int)".toList] := by decide +kernel
    have hcompile := (hok ⟨"/user/:id(int)/", [.literal "user", .param "id" .int]⟩).mpr
      ⟨rfl, hcut ▸ .cons (Segment.parse_eq_ok_iff.mp (by decide +kernel))
        (.cons (Segment.parse_eq_ok_iff.mp (by decide +kernel)) .nil)⟩
    exact ⟨hcompile, rfl, hnames _ hcompile⟩
  · refine (herror _).mpr ⟨":b(float)".toList, .unsupportedKind "float",
      ⟨[":a(int)".toList], [":c".toList], by decide +kernel, ?_, ?_⟩, by simp⟩
    · intro ds hds
      obtain rfl := List.mem_singleton.mp hds
      exact ⟨.param "a" .int, Segment.parse_eq_ok_iff.mp (by decide +kernel)⟩
    · exact Segment.parse_eq_error_iff.mp (by decide +kernel)
  · have hword : Segment.IsWord "float".toList := by decide +kernel
    exact hreason "float".toList hword.2

end Pattern

end PathRouter
