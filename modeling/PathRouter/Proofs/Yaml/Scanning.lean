import Mathlib.Data.List.InsertIdx
import PathRouter.Proofs.Yaml.Readers
import PathRouter.Yaml.Token.Scan

/-!
# What scanning fails with

A scanner goes forward through its text, and it appends the token that ends the text only where
nothing is left of it (`Scanner.Advances`).  Each of its steps is shown to advance or to fail for a
reason in what is left of the text.  Two facts about the tokens of a source follow
(`Tokens.explains_ofSource`): the fault after them has a reason, and they hold no end of the text if
the source is faulty.
-/

namespace PathRouter.Yaml

namespace Scanner

variable {outer : Fault}

/-- What a scanner has done between `s` and `t`: it went forward and did not end the text. -/
structure Advances (s t : Scanner) : Prop where
  place : t.cursor.rest <:+ s.cursor.rest
  unended : .streamEnd ∉ s.reversed → .streamEnd ∉ t.reversed

lemma Advances.refl (s : Scanner) : s.Advances s := ⟨List.suffix_refl _, id⟩

lemma Advances.trans {s t u : Scanner} (h : s.Advances t) (h' : t.Advances u) : s.Advances u :=
  ⟨h'.place.trans h.place, fun hs => h'.unended (h.unended hs)⟩

/-- A scanner advances, or fails for a reason in what is left of the text. -/
abbrev Scans (outer : Fault) (s : Scanner) (r : Except Fault Scanner) : Prop :=
  Outcome outer s.cursor.rest s.Advances r

/-- Scanning on from where a scanner has come to. -/
lemma Scans.bind {s : Scanner} {r : Except Fault Scanner} {k : Scanner → Except Fault Scanner}
    (h : Scans outer s r) (hk : ∀ t, Scans outer t (k t)) : Scans outer s (r >>= k) :=
  Outcome.bind h fun t _ ht => (hk t).mono ht.place fun _ hu => ht.trans hu

/-- What is done first does not matter if it cannot fail. -/
lemma Scans.of_advances {s t : Scanner} {r : Except Fault Scanner} (h : Scans outer t r)
    (ht : s.Advances t) : Scans outer s r :=
  h.mono ht.place fun _ hu => ht.trans hu

/-! ### Steps that cannot fail -/

/-- One more token does not end the text. -/
lemma unended_cons {t : Token} (h : t ≠ .streamEnd) {ts : List Token} (hts : .streamEnd ∉ ts) :
    .streamEnd ∉ t :: ts :=
  List.not_mem_cons_of_ne_of_not_mem h.symm hts

lemma unended_insertIdx {t : Token} (h : t ≠ .streamEnd) {ts : List Token} (hts : .streamEnd ∉ ts)
    (i : Nat) : .streamEnd ∉ ts.insertIdx i t := by
  intro hmem
  rcases List.eq_or_mem_of_mem_insertIdx hmem with heq | hmem
  · exact h heq.symm
  · exact hts hmem

lemma advances_push (s : Scanner) {t : Token} (h : t ≠ .streamEnd) : s.Advances (s.push t) :=
  ⟨List.suffix_refl _, unended_cons h⟩

lemma advances_insertAt (s : Scanner) (number : Nat) {t : Token} (h : t ≠ .streamEnd) :
    s.Advances (s.insertAt number t) :=
  ⟨List.suffix_refl _, fun hs => unended_insertIdx h hs _⟩

lemma advances_single (s : Scanner) {t : Token} (h : t ≠ .streamEnd) : s.Advances (s.single t) :=
  ⟨Cursor.next_suffix s.cursor, unended_cons h⟩

lemma advances_unindentTo (column : Int) (outer : List Int) (s : Scanner) :
    s.Advances (unindentTo column outer s) := by
  induction outer generalizing s with
  | nil => exact .refl s
  | cons i outer ih =>
    unfold unindentTo
    split
    · have hpush : s.Advances { s.push .blockEnd with indent := i, outer := outer } :=
        ⟨List.suffix_refl _, unended_cons (by simp)⟩
      exact hpush.trans (ih _)
    · exact .refl s

lemma advances_unindent (s : Scanner) (column : Int) : s.Advances (s.unindent column) := by
  unfold unindent
  split
  · exact advances_unindentTo column s.outer s
  · exact .refl s

lemma cursor_unindent (s : Scanner) (column : Int) : (s.unindent column).cursor = s.cursor := by
  have hto : ∀ (outer : List Int) (s : Scanner), (unindentTo column outer s).cursor = s.cursor := by
    intro outer
    induction outer with
    | nil => exact fun _ => rfl
    | cons i outer ih =>
      intro s
      unfold unindentTo
      split
      · exact ih _
      · rfl
  unfold unindent
  split
  · exact hto s.outer s
  · rfl

lemma advances_indentTo (s : Scanner) (column : Nat) {start : Scanner → Scanner}
    (h : ∀ t, Advances t (start t)) : s.Advances (s.indentTo column start) := by
  unfold indentTo
  split
  · have hopen : s.Advances { s with indent := column, outer := s.indent :: s.outer } :=
      ⟨List.suffix_refl _, id⟩
    exact hopen.trans (h _)
  · exact .refl s

lemma nextToken_suffix (fuel : Nat) (c : Cursor) : (nextToken fuel c).1.rest <:+ c.rest := by
  induction fuel generalizing c with
  | zero => exact List.suffix_refl _
  | succ fuel ih =>
    have hcomment := (Cursor.skipComment_suffix c.skipSpaces).trans (Cursor.skipSpaces_suffix c)
    unfold nextToken
    dsimp only
    split
    · exact hcomment
    · exact (ih _).trans ((Cursor.lineBreak?_suffix ‹_›).trans hcomment)

lemma advances_toNextToken (s : Scanner) : s.Advances s.toNextToken := by
  have hmark : (if s.cursor.index = 0 && s.cursor.char? = some '\ufeff' then s.cursor.next
      else s.cursor).rest <:+ s.cursor.rest := by
    split
    · exact Cursor.next_suffix s.cursor
    · exact List.suffix_refl _
  unfold toNextToken
  dsimp only
  exact ⟨(nextToken_suffix _ _).trans hmark, id⟩

/-! ### Possible keys -/

lemma scans_dropStale (s : Scanner) : Scans outer s s.dropStale := by
  unfold dropStale
  split
  · exact .malformed
  · exact ⟨List.suffix_refl _, id⟩

lemma scans_dropKey (s : Scanner) : Scans outer s s.dropKey := by
  unfold dropKey
  split
  · exact .malformed
  · exact ⟨List.suffix_refl _, id⟩

lemma cursor_of_dropKey {s t : Scanner} (h : s.dropKey = .ok t) : t.cursor = s.cursor := by
  unfold dropKey at h
  split at h
  · simp at h
  · exact (Except.ok.inj h) ▸ rfl

lemma scans_saveKey (s : Scanner) : Scans outer s s.saveKey := by
  have hdrop : Scans outer s s.dropKey := scans_dropKey s
  unfold saveKey
  generalize s.dropKey = dropped at hdrop ⊢
  split
  · exact Advances.refl s
  · cases dropped with
    | error f => exact hdrop
    | ok t => exact Advances.trans hdrop ⟨List.suffix_refl _, id⟩

/-! ### Tokens -/

lemma scans_documentMark (s : Scanner) {t : Token} (h : t ≠ .streamEnd) :
    Scans outer s (s.documentMark t) := by
  have hunindent := advances_unindent s (-1)
  unfold documentMark
  exact ((scans_dropKey _).of_advances hunindent).bind fun u =>
    ⟨Cursor.skip_suffix 3 _, unended_cons h⟩

lemma scans_directive {s : Scanner} (h : s.cursor.char? = some '%') :
    Scans outer s s.directive := by
  have hunindent := advances_unindent s (-1)
  unfold directive
  refine Outcome.bind ((scans_dropKey (s.unindent (-1))).of_advances hunindent) fun u hu hadv => ?_
  have hcursor : u.cursor = s.cursor := (cursor_of_dropKey hu).trans (cursor_unindent s (-1))
  rw [← hcursor] at h
  refine (Outcome.bind (Q := u.Advances) (Cursor.reads_directive h) ?_).mono hadv.place
    fun _ hv => hadv.trans hv
  rintro ⟨t, c⟩ - ⟨hc, ht⟩
  exact ⟨hc, unended_cons ht⟩

lemma scans_flowStart (s : Scanner) {t : Token} (h : t ≠ .streamEnd) :
    Scans outer s (s.flowStart t) := by
  unfold flowStart
  exact (scans_saveKey s).bind fun u => ⟨Cursor.next_suffix _, unended_cons h⟩

lemma scans_flowEnd (s : Scanner) {t : Token} (h : t ≠ .streamEnd) :
    Scans outer s (s.flowEnd t) := by
  unfold flowEnd
  refine (scans_dropKey s).bind fun u => ?_
  dsimp only
  split
  · exact .malformed
  · exact ⟨Cursor.next_suffix _, unended_cons h⟩

lemma scans_flowEntry (s : Scanner) : Scans outer s s.flowEntry := by
  unfold flowEntry
  exact (scans_dropKey s).bind fun u => ⟨Cursor.next_suffix _, unended_cons (by simp)⟩

lemma scans_blockMark (s : Scanner) {start : Token} (h : start ≠ .streamEnd) :
    Scans outer s (s.blockMark start) := by
  unfold blockMark
  split
  · exact Advances.refl s
  · split
    · exact .malformed
    · exact advances_indentTo s _ fun t => advances_push t h

lemma scans_blockEntry (s : Scanner) : Scans outer s s.blockEntry := by
  unfold blockEntry
  refine (scans_blockMark s (by simp)).bind fun u => ?_
  exact (scans_dropKey u).bind fun v => ⟨Cursor.next_suffix _, unended_cons (by simp)⟩

lemma scans_key (s : Scanner) : Scans outer s s.key := by
  unfold key
  refine (scans_blockMark s (by simp)).bind fun u => ?_
  exact (scans_dropKey u).bind fun v => ⟨Cursor.next_suffix _, unended_cons (by simp)⟩

lemma scans_value (s : Scanner) : Scans outer s s.value := by
  unfold value
  split
  · rename_i k _
    have hkey (s : Scanner) : s.Advances (s.insertAt k.number .key) :=
      advances_insertAt s _ (by simp)
    have hstart (s : Scanner) : s.Advances (s.insertAt k.number .blockMappingStart) :=
      advances_insertAt s _ (by simp)
    have hvalue (s : Scanner) : s.Advances (s.single .value) := advances_single s (by simp)
    have hforget : s.Advances { s with
        keys := s.keys.filter fun k => k.level ≠ s.flow, keyAllowed := false } :=
      ⟨List.suffix_refl _, id⟩
    dsimp only
    split
    · exact ((hforget.trans (hkey _)).trans (advances_indentTo _ k.column hstart)).trans (hvalue _)
    · exact (hforget.trans (hkey _)).trans (hvalue _)
  · refine (scans_blockMark s (by simp)).bind fun u => ?_
    exact (scans_dropKey u).bind fun v => ⟨Cursor.next_suffix _, unended_cons (by simp)⟩

lemma scans_node (s : Scanner) {read : Cursor → Except Fault (Token × Cursor)}
    (h : ∀ c, ReadsToken outer c.rest (read c)) : Scans outer s (s.node read) := by
  unfold node
  refine (scans_saveKey s).bind fun u => ?_
  refine Outcome.bind (h u.cursor) ?_
  rintro ⟨t, c⟩ - ⟨hc, ht⟩
  exact ⟨hc, unended_cons ht⟩

lemma readsToken_nameToken {make : String → Token} (h : ∀ n, make n ≠ .streamEnd) (c : Cursor) :
    ReadsToken outer c.rest (nameToken make c) := by
  unfold nameToken
  refine Outcome.bind ((Cursor.reads_name c.next).of_suffix (Cursor.next_suffix c)) ?_
  rintro ⟨n, d⟩ - hd
  exact ⟨hd, h n⟩

lemma readsToken_quotedToken (c : Cursor) : ReadsToken outer c.rest (quotedToken outer c) := by
  have hquoted : Cursor.ReadsQuoted outer c.rest c.quoted := Cursor.reads_quoted c
  unfold quotedToken
  generalize c.quoted = r at hquoted ⊢
  cases r with
  | error f? => exact hquoted
  | ok x => exact ⟨hquoted, by simp⟩

lemma scans_plainScalar (s : Scanner) : Scans outer s s.plainScalar := by
  unfold plainScalar
  exact (scans_saveKey s).bind fun u => ⟨Cursor.plain_suffix _ _ _, unended_cons (by simp)⟩

lemma scans_blockScalar (s : Scanner) : Scans outer s s.blockScalar := by
  unfold blockScalar
  refine (scans_dropKey s).bind fun u => ?_
  refine Outcome.bind (Cursor.reads_block u.indent u.cursor) ?_
  rintro ⟨text, c⟩ - hc
  exact ⟨hc, unended_cons (by simp)⟩

/-- The last token is read at the end of the text. -/
lemma streamEnd_spec (s : Scanner) :
    Outcome outer s.cursor.rest (fun t => t.cursor = s.cursor) s.streamEnd := by
  have hunindent := advances_unindent s (-1)
  unfold streamEnd
  refine Outcome.bind ((scans_dropKey (s.unindent (-1))).of_advances hunindent) fun u hu _ => ?_
  exact (cursor_of_dropKey hu).trans (cursor_unindent s (-1))

/-- What a step of a scanner comes to: it advances, unless it is the last one. -/
def Steps (outer : Fault) (s : Scanner) (r : Except Fault (Scanner × Bool)) : Prop :=
  Outcome outer s.cursor.rest
    (fun x => x.1.cursor.rest <:+ s.cursor.rest ∧ (x.1.cursor.rest = [] ∨ s.Advances x.1)) r

/-- A step that is not the last one. -/
lemma Scans.steps {s : Scanner} {r : Except Fault Scanner} (h : Scans outer s r) :
    Steps outer s (r.map (·, false)) := by
  cases r with
  | ok t => exact ⟨Advances.place h, .inr h⟩
  | error f => exact h

lemma steps_token (s : Scanner) : Steps outer s (s.token outer) := by
  unfold token
  dsimp only
  cases hch : s.cursor.char? with
  | none =>
    have hrest : s.cursor.rest = [] := List.head?_eq_none_iff.mp hch
    have hend : Outcome outer s.cursor.rest (fun t => t.cursor = s.cursor) s.streamEnd :=
      streamEnd_spec s
    generalize s.streamEnd = r at hend ⊢
    cases r with
    | error f => exact hend
    | ok t =>
      have hcursor : t.cursor = s.cursor := hend
      have hleft : t.cursor.rest = [] := hcursor ▸ hrest
      exact ⟨hcursor ▸ List.suffix_refl _, .inl hleft⟩
  | some ch =>
    refine .ite (fun hmark => ?_) fun _ => ?_
    · have hpercent : ch = '%' := by
        rw [Bool.and_eq_true, decide_eq_true_iff] at hmark
        exact hmark.1
      exact (scans_directive (hpercent ▸ hch)).steps
    refine .ite (fun _ => (scans_documentMark s (by simp)).steps) fun _ => ?_
    refine .ite (fun _ => (scans_documentMark s (by simp)).steps) fun _ => ?_
    refine .ite (fun _ => (scans_flowStart s (by simp)).steps) fun _ => ?_
    refine .ite (fun _ => (scans_flowStart s (by simp)).steps) fun _ => ?_
    refine .ite (fun _ => (scans_flowEnd s (by simp)).steps) fun _ => ?_
    refine .ite (fun _ => (scans_flowEnd s (by simp)).steps) fun _ => ?_
    refine .ite (fun _ => (scans_flowEntry s).steps) fun _ => ?_
    refine .ite (fun _ => (scans_blockEntry s).steps) fun _ => ?_
    refine .ite (fun _ => (scans_key s).steps) fun _ => ?_
    refine .ite (fun _ => (scans_value s).steps) fun _ => ?_
    refine .ite (fun _ => (scans_node s (readsToken_nameToken (by simp))).steps) fun _ => ?_
    refine .ite (fun _ => (scans_node s (readsToken_nameToken (by simp))).steps) fun _ => ?_
    refine .ite (fun _ => (scans_node s Cursor.reads_tag).steps) fun _ => ?_
    refine .ite (fun _ => (scans_blockScalar s).steps) fun _ => ?_
    refine .ite (fun _ => (scans_node s readsToken_quotedToken).steps) fun _ => ?_
    exact .ite (fun _ => (scans_plainScalar s).steps) fun _ => .malformed

lemma steps_step (s : Scanner) : Steps outer s (s.step outer) := by
  have hdrop : Scans outer s s.toNextToken.dropStale :=
    (scans_dropStale _).of_advances (advances_toNextToken s)
  unfold step
  generalize s.toNextToken.dropStale = r at hdrop ⊢
  cases r with
  | error f => exact hdrop
  | ok t =>
    have ht : s.Advances (t.unindent t.cursor.column) :=
      Advances.trans hdrop (advances_unindent t t.cursor.column)
    exact (steps_token _).mono ht.place fun _ hx =>
      ⟨hx.1.trans ht.place, hx.2.imp_right ht.trans⟩

/-! ### Sources -/

lemma dropStale_error {s : Scanner} {f : Fault} (h : s.dropStale = .error f) : f = .malformed := by
  unfold dropStale at h
  split at h
  · exact (Except.error.inj h).symm
  · simp at h

lemma fault_readable (s : Scanner) (fault : Fault) :
    (s.readable fault).fault = .malformed ∨ (s.readable fault).fault = fault := by
  unfold readable
  split
  · exact .inl (dropStale_error ‹_›)
  · exact .inr rfl

lemma unended_readable {s : Scanner} (h : .streamEnd ∉ s.reversed) (fault : Fault) :
    .streamEnd ∉ (s.readable fault).tokens := by
  have hdrop (n : Nat) : .streamEnd ∉ (s.reversed.drop n).reverse := fun hmem =>
    h (List.mem_of_mem_drop (List.mem_reverse.mp hmem))
  have hsame {t : Scanner} (ht : s.dropStale = .ok t) : t.reversed = s.reversed := by
    unfold dropStale at ht
    split at ht
    · simp at ht
    · exact (Except.ok.inj ht) ▸ rfl
  unfold readable
  split
  · exact hdrop _
  · rw [hsame ‹_›]
    exact hdrop _

/-- The fault that ends what can be read of a source, or one of a text that has an end. -/
abbrev faultOf (source : Source) : Fault := source.fault?.getD .malformed

/-- After the tokens comes a fault with a reason in the text, and the tokens of a faulty source do
not reach the end. -/
structure Explains (source : Source) (ts : Tokens) : Prop where
  reason : Reason (faultOf source) source.text ts.fault
  unended : source.fault? ≠ none → .streamEnd ∉ ts.tokens

lemma explains_readable {source : Source} {s : Scanner} {f : Fault}
    (hf : Reason (faultOf source) source.text f)
    (hs : source.fault? ≠ none → .streamEnd ∉ s.reversed) : Explains source (s.readable f) where
  reason := by
    rcases fault_readable s f with h | h
    · exact .inl h
    · exact h.symm ▸ hf
  unended := fun h => unended_readable (hs h) f

lemma explains_scanFrom {source : Source} (fuel : Nat) {s : Scanner}
    (hplace : s.cursor.rest <:+ source.text)
    (hs : source.fault? ≠ none → .streamEnd ∉ s.reversed) :
    Explains source (scanFrom source fuel s) := by
  induction fuel generalizing s with
  | zero => exact explains_readable (.inl rfl) hs
  | succ fuel ih =>
    have hstep : Steps (faultOf source) s (s.step (faultOf source)) := steps_step s
    unfold scanFrom
    generalize s.step (faultOf source) = r at hstep ⊢
    cases r with
    | error f => exact explains_readable (Reason.mono hstep hplace.isInfix) hs
    | ok x =>
      obtain ⟨t, last⟩ := x
      obtain ⟨ht, hadvances⟩ := hstep
      dsimp only
      split
      · rename_i fault hfault
        split
        · refine explains_readable (.inr (.inl ?_)) hs
          rw [faultOf, hfault, Option.getD_some]
        · rename_i hleft
          exact ih (ht.trans hplace) fun h => (hadvances.resolve_left hleft).unended (hs h)
      · rename_i hnone
        split
        · exact ⟨.inl rfl, fun h => absurd hnone h⟩
        · exact ih (ht.trans hplace) fun h => absurd hnone h

end Scanner

/-- The tokens of a source end in a fault with a reason, and those of a faulty source do not reach
the end. -/
theorem Tokens.explains_ofSource (source : Source) :
    Scanner.Explains source (Tokens.ofSource source) :=
  Scanner.explains_scanFrom _ (List.suffix_refl _) fun _ => List.not_mem_nil

end PathRouter.Yaml
