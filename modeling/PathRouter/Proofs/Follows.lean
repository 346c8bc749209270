import Mathlib.Data.List.Forall2
import Mathlib.Tactic.Common

/-!
# Readers and what they follow

A reader takes data and returns a result or an error.  `Follows` compares it with a description in
two relations: what the data reads as, and what is wrong with it.  For every data one of the two
must apply, and the reader must agree with either.  Then it returns exactly the results
(`Follows.eq_ok_iff`) and exactly the errors (`Follows.eq_error_iff`) that are described.

A list is read item by item, and the leftmost item with a defect counts.  This holds for each
direction by itself (`mapM_of_forall₂`, `mapM_of_leftmost`, `forall_or_leftmost`), and so the reader
of lists follows what its reader of items follows (`Follows.mapM`).
-/

namespace PathRouter

variable {α β ε : Type} {read : α → Except ε β} {Reads : α → β → Prop} {Defect : α → ε → Prop}

/-- The reader returns what the data reads as, fails with what is wrong with it, and one of the two
applies. -/
structure Follows (read : α → Except ε β) (Reads : α → β → Prop) (Defect : α → ε → Prop) :
    Prop where
  reads : ∀ a b, Reads a b → read a = .ok b
  defect : ∀ a e, Defect a e → read a = .error e
  total : ∀ a, (∃ b, Reads a b) ∨ ∃ e, Defect a e

namespace Follows

/-- The reader succeeds exactly as described. -/
theorem eq_ok_iff (h : Follows read Reads Defect) {a : α} {b : β} :
    read a = .ok b ↔ Reads a b := by
  refine ⟨fun hread => ?_, h.reads a b⟩
  rcases h.total a with ⟨b', hb'⟩ | ⟨e, he⟩
  · rw [h.reads a b' hb', Except.ok.injEq] at hread
    exact hread ▸ hb'
  · rw [h.defect a e he] at hread
    exact absurd hread (by simp)

/-- The reader fails exactly as described. -/
theorem eq_error_iff (h : Follows read Reads Defect) {a : α} {e : ε} :
    read a = .error e ↔ Defect a e := by
  refine ⟨fun hread => ?_, h.defect a e⟩
  rcases h.total a with ⟨b, hb⟩ | ⟨e', he'⟩
  · rw [h.reads a b hb] at hread
    exact absurd hread (by simp)
  · rw [h.defect a e' he', Except.error.injEq] at hread
    exact hread ▸ he'

end Follows

/-! ### Lists -/

/-- The leftmost item that does not pass has the defect. -/
def Leftmost (Passes : α → Prop) (Defect : α → ε → Prop) (as : List α) (e : ε) : Prop :=
  ∃ before a after, as = before ++ a :: after ∧ (∀ b ∈ before, Passes b) ∧ Defect a e

/-- An item that is read leaves the outcome to the others. -/
lemma mapM_cons_of_ok {a : α} {b : β} (h : read a = .ok b) (as : List α) :
    (a :: as).mapM read = (as.mapM read).map (b :: ·) := by
  rw [List.mapM_cons, h]
  rfl

/-- An item that is not read decides the outcome. -/
lemma mapM_cons_of_error {a : α} {e : ε} (h : read a = .error e) (as : List α) :
    (a :: as).mapM read = .error e := by
  rw [List.mapM_cons, h]
  rfl

/-- A list is read when all its items are. -/
theorem mapM_of_forall₂ (h : ∀ a b, Reads a b → read a = .ok b) {as : List α} {bs : List β}
    (hall : List.Forall₂ Reads as bs) : as.mapM read = .ok bs := by
  induction hall with
  | nil => rfl
  | cons hab _ ih =>
    rw [mapM_cons_of_ok (h _ _ hab), ih]
    rfl

/-- Reading a list fails with the leftmost defect. -/
theorem mapM_of_leftmost {Passes : α → Prop} {as : List α} {e : ε}
    (hpasses : ∀ a ∈ as, Passes a → ∃ b, read a = .ok b)
    (hdefect : ∀ a ∈ as, Defect a e → read a = .error e)
    (hleft : Leftmost Passes Defect as e) : as.mapM read = .error e := by
  obtain ⟨before, a, after, rfl, hbefore, ha⟩ := hleft
  have herror : read a = .error e := hdefect a (by simp) ha
  have hok : ∀ b ∈ before, ∃ r, read b = .ok r := fun b hb =>
    hpasses b (by simp [hb]) (hbefore b hb)
  clear hpasses hdefect hbefore
  induction before with
  | nil => exact mapM_cons_of_error herror after
  | cons b before ih =>
    rw [List.forall_mem_cons] at hok
    obtain ⟨r, hr⟩ := hok.1
    rw [List.cons_append, mapM_cons_of_ok hr, ih hok.2]
    rfl

/-- All items pass, or one of them is the leftmost with a defect. -/
theorem forall_or_leftmost {Passes : α → Prop} {as : List α}
    (h : ∀ a ∈ as, Passes a ∨ ∃ e, Defect a e) :
    (∀ a ∈ as, Passes a) ∨ ∃ e, Leftmost Passes Defect as e := by
  induction as with
  | nil => exact .inl (by simp)
  | cons a as ih =>
    rw [List.forall_mem_cons] at h
    rcases h.1 with ha | ⟨e, he⟩
    · rcases ih h.2 with has | ⟨e, before, a', after, rfl, hbefore, ha'⟩
      · exact .inl (List.forall_mem_cons.mpr ⟨ha, has⟩)
      · exact .inr ⟨e, a :: before, a', after, rfl, List.forall_mem_cons.mpr ⟨ha, hbefore⟩, ha'⟩
    · exact .inr ⟨e, [], a, as, rfl, by simp, he⟩

/-- Items that can be related one by one can be related all at once. -/
lemma exists_forall₂ {as : List α} (h : ∀ a ∈ as, ∃ b, Reads a b) :
    ∃ bs, List.Forall₂ Reads as bs := by
  induction as with
  | nil => exact ⟨[], .nil⟩
  | cons a as ih =>
    rw [List.forall_mem_cons] at h
    obtain ⟨b, hb⟩ := h.1
    obtain ⟨bs, hbs⟩ := ih h.2
    exact ⟨b :: bs, .cons hb hbs⟩

/-- A reader of lists follows what its reader of items follows. -/
theorem Follows.mapM (h : Follows read Reads Defect) :
    Follows (fun as : List α => as.mapM read) (List.Forall₂ Reads)
      (Leftmost (fun a => ∃ b, Reads a b) Defect) where
  reads := fun _ _ => mapM_of_forall₂ h.reads
  defect := fun _ _ => mapM_of_leftmost (fun a _ ⟨b, hb⟩ => ⟨b, h.reads a b hb⟩)
    fun a _ => h.defect a _
  total := fun _ => (forall_or_leftmost fun a _ => h.total a).imp_left exists_forall₂

end PathRouter
