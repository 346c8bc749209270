import PathRouter.Proofs.Pattern.Compilation

/-!
# Compiling undoes writing

A pattern is written as a slash before each of its segments.  For a compiled pattern this is its
source with one slash at the beginning and none at the end (`Pattern.toList_written`), and compiling
it gives the same segments, since slashes around a source do not count (`Pattern.cut_surrounded`).

The compiler reaches exactly the canonical lists of segments: the pieces of a trimmed text do not
begin or end with an empty one (`Segment.isCanonical_of_spells`), and a canonical list is read back
from its text (`Pattern.compile_writtenAll`).  Both are joined in
`Pattern.compile_inverts_writing`.
-/

namespace PathRouter

namespace Segment

/-- A segment is written as it is spelled. -/
lemma toList_written_of_spells {cs : List Char} {s : Segment} (h : Spells cs s) :
    s.written.toList = cs := by
  cases h with
  | literal _ => exact String.toList_ofList
  | param k _ => simp [written]

/-- The pieces of a pattern are its segments as they are written. -/
lemma map_written_of_spells {pieces : List (List Char)} {ss : List Segment}
    (h : List.Forall₂ Spells pieces ss) : (ss.map fun s => s.written.toList) = pieces := by
  induction h with
  | nil => rfl
  | cons hs _ ih => rw [List.map_cons, toList_written_of_spells hs, ih]

/-- A segment that can be spelled at all is spelled as it is written. -/
lemma spells_written {s : Segment} (h : s.IsSpellable) : Spells s.written.toList s := by
  cases s with
  | literal t =>
    have hspells : Spells t.toList (literal (String.ofList t.toList)) := .literal h.2
    rwa [String.ofList_toList] at hspells
  | param n k =>
    have hword : IsWord n.toList := h
    have hspells := Spells.param k hword
    rw [String.ofList_toList] at hspells
    have hwritten : (param n k).written.toList =
        ':' :: n.toList ++ '(' :: k.keyword.toList ++ [')'] := by simp [written]
    rwa [hwritten]

/-- What is spelled without slashes can be spelled. -/
lemma isSpellable_of_spells {cs : List Char} {s : Segment} (h : Spells cs s) (hslash : '/' ∉ cs) :
    s.IsSpellable := by
  cases h with
  | literal head =>
    refine ⟨?_, ?_⟩
    · rwa [String.toList_ofList]
    · rwa [String.toList_ofList]
  | @param name k word =>
    have hword : IsWord (String.ofList name).toList := by rwa [String.toList_ofList]
    exact hword

/-- A segment that can be spelled is written without slashes. -/
lemma slash_not_mem_written {s : Segment} (h : s.IsSpellable) : '/' ∉ s.written.toList := by
  cases s with
  | literal t => exact h.1
  | param n k =>
    have hword : ∀ c, IsNameChar c → '/' ≠ c := by
      rintro c hc rfl
      exact absurd hc (by decide)
    intro hmem
    simp only [written, String.toList_append, List.mem_append] at hmem
    rcases hmem with (((hmem | hmem) | hmem) | hmem) | hmem
    · exact absurd hmem (by decide)
    · exact hword _ (h.2 _ hmem) rfl
    · exact absurd hmem (by decide)
    · exact hword _ (isNameChar_of_mem_keyword hmem) rfl
    · exact absurd hmem (by decide)

/-- Only the empty literal is written as the empty text. -/
lemma written_eq_nil_iff {s : Segment} : s.written.toList = [] ↔ s = literal "" := by
  cases s with
  | literal t => simp [written]
  | param n k => simp [written]

/-- An empty piece at an end of the text is an empty literal at that end of the segments. -/
lemma map_written_eq_some_nil_iff {s? : Option Segment} :
    s?.map (fun s => s.written.toList) = some [] ↔ s? = some (literal "") := by
  cases s? with
  | none => simp
  | some s =>
    rw [Option.map_some, Option.some_inj, Option.some_inj]
    exact written_eq_nil_iff

/-- The segments of a trimmed text are canonical. -/
theorem isCanonical_of_spells {pieces : List (List Char)} {ss : List Segment}
    (hspells : List.Forall₂ Spells pieces ss) (hne : pieces ≠ [])
    (hslash : ∀ cs ∈ pieces, '/' ∉ cs)
    (hends : pieces = [[]] ∨ (pieces.head? ≠ some [] ∧ pieces.getLast? ≠ some [])) :
    IsCanonical ss := by
  have hpieces := map_written_of_spells hspells
  rcases hends with hroot | ⟨hfirst, hlast⟩
  · left
    obtain ⟨s, rfl⟩ : ∃ s, ss = [s] := by
      rw [← List.length_eq_one_iff, ← hspells.length_eq, hroot]
      rfl
    have hempty : s.written.toList = [] := by simpa [hroot] using hpieces
    rw [written_eq_nil_iff.mp hempty]
  · right
    refine ⟨?_, ?_, ?_, ?_⟩
    · rintro rfl
      exact hne hpieces.symm
    · intro hhead
      refine hfirst ?_
      rw [← hpieces, List.head?_map]
      exact map_written_eq_some_nil_iff.mpr hhead
    · intro hend
      refine hlast ?_
      rw [← hpieces, List.getLast?_map]
      exact map_written_eq_some_nil_iff.mpr hend
    · intro s hs
      obtain ⟨cs, hcs, hspell⟩ := exists_mem_spells hspells hs
      exact isSpellable_of_spells hspell (hslash cs hcs)

/-- Canonical segments can be spelled one by one. -/
lemma IsCanonical.isSpellable {ss : List Segment} (h : IsCanonical ss) :
    ∀ s ∈ ss, s.IsSpellable := by
  rcases h with rfl | ⟨-, -, -, hall⟩
  · intro s hs
    obtain rfl := List.mem_singleton.mp hs
    exact ⟨List.not_mem_nil, by simp⟩
  · exact hall

/-- Canonical segments are written without slashes. -/
lemma IsCanonical.slash_not_mem {ss : List Segment} (h : IsCanonical ss) :
    ∀ cs ∈ ss.map fun s => s.written.toList, '/' ∉ cs := by
  intro cs hcs
  obtain ⟨s, hs, rfl⟩ := List.mem_map.mp hcs
  exact slash_not_mem_written (h.isSpellable s hs)

/-- Nothing is trimmed from the text between the first slash and the end of canonical segments. -/
lemma IsCanonical.ends {ss : List Segment} (h : IsCanonical ss) :
    (Text.joinWith '/' (ss.map fun s => s.written.toList)).head? ≠ some '/' ∧
      (Text.joinWith '/' (ss.map fun s => s.written.toList)).getLast? ≠ some '/' := by
  have hslash := h.slash_not_mem
  rcases h with rfl | ⟨hne, hfirst, hlast, -⟩
  · exact ⟨by decide, by decide⟩
  · refine Text.ends_joinWith (by simpa using hne) hslash ?_ ?_
    · rw [List.head?_map]
      exact fun hnil => hfirst (map_written_eq_some_nil_iff.mp hnil)
    · rw [List.getLast?_map]
      exact fun hnil => hlast (map_written_eq_some_nil_iff.mp hnil)

end Segment

namespace Pattern

/-- Slashes around a source do not count. -/
lemma cut_surrounded {source source' : String} {core : List Char} {k l m n : Nat}
    (h : source.toList = List.replicate k '/' ++ core ++ List.replicate l '/')
    (h' : source'.toList = List.replicate m '/' ++ core ++ List.replicate n '/') :
    cut source' = cut source := by
  rw [cut, cut, h, h', Text.trimEnds_surrounded, Text.trimEnds_surrounded]

/-- Sources with the same pieces have the same segments. -/
lemma compile_of_cut_eq {source source' : String} {p : Pattern} (hp : compile source = .ok p)
    (hcut : cut source' = cut source) : compile source' = .ok ⟨source', p.segments⟩ := by
  obtain ⟨-, hspells⟩ := compile_eq_ok_iff.mp hp
  exact compile_eq_ok_iff.mpr ⟨rfl, hcut ▸ hspells⟩

/-- A compiled pattern is written as its source, with one slash at the beginning and none at the
end. -/
theorem toList_written {source : String} {p : Pattern} (hp : compile source = .ok p) :
    p.written.toList = '/' :: Text.trimEnds '/' source.toList := by
  obtain ⟨-, hspells⟩ := compile_eq_ok_iff.mp hp
  rw [written, Segment.writtenAll, String.toList_ofList, Segment.map_written_of_spells hspells,
    cut, Text.joinWith_splitOn]

/-- The segments of a compiled pattern are canonical. -/
theorem isCanonical_segments {source : String} {p : Pattern} (hp : compile source = .ok p) :
    Segment.IsCanonical p.segments := by
  obtain ⟨-, hspells⟩ := compile_eq_ok_iff.mp hp
  exact Segment.isCanonical_of_spells hspells (Text.splitOn_ne_nil _ _)
    (fun cs hcs => Text.not_mem_of_mem_splitOn hcs)
    (Text.splitOn_trimEnds_ends '/' source.toList)

/-- The pieces of a written list of canonical segments are the segments as they are written. -/
lemma cut_writtenAll {ss : List Segment} (h : Segment.IsCanonical ss) :
    cut (Segment.writtenAll ss) = ss.map fun s => s.written.toList := by
  have hne : (ss.map fun s => s.written.toList) ≠ [] := by
    rcases h with rfl | ⟨hne, -⟩
    · simp
    · simpa using hne
  obtain ⟨hhead, hlast⟩ := h.ends
  have htrim := Text.trimEnds_replicate_append hhead hlast 1 0
  rw [List.replicate_one, List.replicate_zero, List.append_nil, List.singleton_append] at htrim
  rw [cut, Segment.writtenAll, String.toList_ofList, htrim,
    Text.splitOn_joinWith hne h.slash_not_mem]

/-- Canonical segments are read back from their text. -/
theorem compile_writtenAll {ss : List Segment} (h : Segment.IsCanonical ss) :
    compile (Segment.writtenAll ss) = .ok ⟨Segment.writtenAll ss, ss⟩ := by
  refine compile_eq_ok_iff.mpr ⟨rfl, ?_⟩
  rw [cut_writtenAll h, List.forall₂_map_left_iff, List.forall₂_same]
  exact fun s hs => Segment.spells_written (h.isSpellable s hs)

/-- **Compiling inverts writing.**  A compiled pattern is written as the text between the slashes at
both ends of its source, with one slash in front.  Compiling what is written gives the same
segments, names and expression, and so does compiling the source with other slashes around it.  The
lists of segments that the compiler reaches are the canonical ones, and each of these is read back
from its text. -/
theorem compile_inverts_writing :
    (∀ source p, compile source = .ok p →
      (∃ m n core, source.toList = List.replicate m '/' ++ core ++ List.replicate n '/' ∧
        core.head? ≠ some '/' ∧ core.getLast? ≠ some '/' ∧ p.written.toList = '/' :: core) ∧
      (∃ q, compile p.written = .ok q ∧ q.segments = p.segments ∧ q.paramNames = p.paramNames ∧
        q.expression = p.expression) ∧
      ∀ (core : List Char) (k l m n : Nat) (source' : String),
        source.toList = List.replicate k '/' ++ core ++ List.replicate l '/' →
        source'.toList = List.replicate m '/' ++ core ++ List.replicate n '/' →
        ∃ q, compile source' = .ok q ∧ q.segments = p.segments ∧ q.paramNames = p.paramNames ∧
          q.expression = p.expression) ∧
    (∀ ss, (∃ source p, compile source = .ok p ∧ p.segments = ss) ↔ Segment.IsCanonical ss) ∧
    ∀ ss, Segment.IsCanonical ss →
      compile (Segment.writtenAll ss) = .ok ⟨Segment.writtenAll ss, ss⟩ := by
  refine ⟨fun source p hp => ⟨?_, ?_, ?_⟩, fun ss => ⟨?_, ?_⟩, fun ss => compile_writtenAll⟩
  · obtain ⟨m, n, hsource⟩ := Text.eq_replicate_append_trimEnds '/' source.toList
    exact ⟨m, n, _, hsource, Text.head?_trimEnds_ne '/' _, Text.getLast?_trimEnds_ne '/' _,
      toList_written hp⟩
  · exact ⟨_, compile_writtenAll (isCanonical_segments hp), rfl, rfl, rfl⟩
  · intro core k l m n source' hsource hsource'
    exact ⟨_, compile_of_cut_eq hp (cut_surrounded hsource hsource'), rfl, rfl, rfl⟩
  · rintro ⟨source, p, hp, rfl⟩
    exact isCanonical_segments hp
  · intro h
    exact ⟨_, _, compile_writtenAll h, rfl⟩

/-- A source with slashes around it and between empty pieces, and segments whose text is read
back. -/
theorem compile_inverts_writing_user :
    (∃ p, compile "//user//:id(int)/" = .ok p ∧ p.written = "/user//:id(int)" ∧
      ∃ q, compile "user//:id(int)///" = .ok q ∧ q.segments = p.segments) ∧
    Segment.IsCanonical [.literal "a:(", .literal "", .param "id" .int] ∧
    compile "/a:(//:id(int)" =
      .ok ⟨"/a:(//:id(int)", [.literal "a:(", .literal "", .param "id" .int]⟩ := by
  obtain ⟨hcompiled, himage, hread⟩ := compile_inverts_writing
  have hp : compile "//user//:id(int)/" =
      .ok ⟨"//user//:id(int)/", [.literal "user", .literal "", .param "id" .int]⟩ := by
    decide +kernel
  have hcanonical : Segment.IsCanonical [.literal "a:(", .literal "", .param "id" .int] :=
    (himage _).mp ⟨"a:(//:id(int)", ⟨"a:(//:id(int)", _⟩, by decide +kernel, rfl⟩
  obtain ⟨-, -, hslashes⟩ := hcompiled _ _ hp
  obtain ⟨q, hq, hsegments, -⟩ := hslashes "user//:id(int)".toList 2 1 0 3 "user//:id(int)///"
    (by decide +kernel) (by decide +kernel)
  have hwritten : Segment.writtenAll [.literal "a:(", .literal "", .param "id" .int] =
      "/a:(//:id(int)" := by decide +kernel
  have hback := hread _ hcanonical
  rw [hwritten] at hback
  exact ⟨⟨_, hp, by decide +kernel, q, hq, hsegments⟩, hcanonical, hback⟩

end Pattern

end PathRouter
