import PathRouter.Proofs.Yaml.Merging
import PathRouter.Yaml.Document

/-!
# What checking a document keeps

Checking meets nodes, merges mappings and takes collections from those that wait, and it fails with
the fault of one of these steps.  So a relation between an earlier and a later check that each of
these steps keeps holds between the beginning and the end, and what the faults of the steps are like
is what all faults are like (`Check.Kept`).

With this it is shown that checking comes to its end: a node waits at most once, so as many steps as
there are nodes leave no collection waiting (`Graph.waiting_eq_nil_of_check`).
-/

namespace PathRouter.Yaml

namespace Check

/-- The outcome of checking on is related to the check before, and its fault is as described. -/
def Outcome (R : Check → Check → Prop) (F : Check → Fault → Prop) (c : Check) :
    Except Fault Check → Prop
  | .ok d => R c d
  | .error f => F c f

/-- A relation between checks that each step keeps, and a description of the faults of the steps. -/
structure Kept (R : Check → Check → Prop) (F : Check → Fault → Prop) : Prop where
  refl : ∀ c, R c c
  trans : ∀ {c d e}, R c d → R d e → R c e
  /-- A fault can be seen from the beginning. -/
  back : ∀ {c d f}, R c d → F d f → F c f
  malformed : ∀ c, F c .malformed
  meet : ∀ (c : Check) id, Outcome R F c (c.meet id)
  merge : ∀ (c : Check) g, c.graph.Flattens g → R c { c with graph := g }
  take : ∀ (c : Check) id rest, c.waiting = id :: rest → R c { c with waiting := rest }

namespace Kept

variable {R : Check → Check → Prop} {F : Check → Fault → Prop}

/-- Checking on from a later check. -/
lemma andThen (h : Kept R F) {c d : Check} (hcd : R c d) {r : Except Fault Check}
    (hr : Outcome R F d r) : Outcome R F c r := by
  cases r with
  | ok e => exact h.trans hcd hr
  | error f => exact h.back hcd hr

lemma meetAll (h : Kept R F) (ids : List Nat) (c : Check) :
    Outcome R F c (Check.meetAll ids c) := by
  induction ids generalizing c with
  | nil => exact h.refl c
  | cons id ids ih =>
    have hmeet := h.meet c id
    unfold Check.meetAll
    generalize c.meet id = r at hmeet ⊢
    cases r with
    | error f => exact hmeet
    | ok d => exact h.andThen hmeet (ih d)

lemma meetEntries (h : Kept R F) (es : List (Nat × Nat)) (c : Check) :
    Outcome R F c (Check.meetEntries es c) := by
  induction es generalizing c with
  | nil => exact h.refl c
  | cons e es ih =>
    have hkey := h.meet c e.1
    unfold Check.meetEntries
    generalize c.meet e.1 = r at hkey ⊢
    cases r with
    | error f => exact hkey
    | ok d =>
      dsimp only
      split
      · exact h.malformed c
      · have hvalue := h.meet d e.2
        generalize d.meet e.2 = r at hvalue ⊢
        cases r with
        | error f => exact h.andThen hkey hvalue
        | ok d' => exact h.andThen (h.trans hkey hvalue) (ih d')

lemma meetPairs (h : Kept R F) (ids : List Nat) (c : Check) :
    Outcome R F c (Check.meetPairs ids c) := by
  induction ids generalizing c with
  | nil => exact h.refl c
  | cons id ids ih =>
    unfold Check.meetPairs
    split
    · rename_i k v _
      have hmeet := h.meetAll [k, v] c
      generalize Check.meetAll [k, v] c = r at hmeet ⊢
      cases r with
      | error f => exact hmeet
      | ok d => exact h.andThen hmeet (ih d)
    · exact h.malformed c

/-- The entries of a mapping are met after merging. -/
lemma merged (h : Kept R F) {c : Check} {id : Nat} (hid : c.graph.isMapping id = true) :
    Outcome R F c (match c.graph.merge id with
      | .error e => .error e
      | .ok g => Check.meetEntries (g.entries id) { c with graph := g }) := by
  have hmerge := Graph.merged_merge hid
  generalize c.graph.merge id = r at hmerge ⊢
  cases r with
  | error f =>
    obtain rfl : f = .malformed := hmerge
    exact h.malformed c
  | ok g => exact h.andThen (h.merge c g hmerge.1) (h.meetEntries _ _)

lemma meetMembers (h : Kept R F) (c : Check) (id : Nat) :
    Outcome R F c (c.meetMembers id) := by
  unfold Check.meetMembers
  split
  · exact h.meetAll _ c
  · exact h.meetPairs _ c
  · exact h.meetPairs _ c
  · rename_i es _ hcontent
    exact h.merged (by rw [Graph.isMapping, hcontent])
  · rename_i es _ hcontent
    exact h.merged (by rw [Graph.isMapping, hcontent])
  · exact h.malformed c

theorem meetWaiting (h : Kept R F) (fuel : Nat) (c : Check) :
    Outcome R F c (Check.meetWaiting fuel c) := by
  induction fuel generalizing c with
  | zero => exact h.refl c
  | succ fuel ih =>
    unfold Check.meetWaiting
    split
    · exact h.refl c
    · rename_i id rest hwaiting
      have htake := h.take c id rest hwaiting
      have hmembers := h.meetMembers { c with waiting := rest } id
      generalize { c with waiting := rest }.meetMembers id = r at hmembers ⊢
      cases r with
      | error f => exact h.back htake hmembers
      | ok d => exact h.andThen (h.trans htake hmembers) (ih d)

end Kept

/-! ### The end of checking -/

/-- The number of collections that wait and of nodes that may still come to wait. -/
def pending (c : Check) : Nat := c.waiting.length + c.met.toList.countP fun b => !b

lemma pending_take {c : Check} {id : Nat} {rest : List Nat} (h : c.waiting = id :: rest) :
    ({ c with waiting := rest } : Check).pending + 1 = c.pending := by
  unfold pending
  dsimp only
  rw [h, List.length_cons]
  omega

/-- One node less is unmet when a node is met for the first time. -/
lemma countP_unmet_set (met : Array Bool) (id : Nat) (h : met[id]?.getD true = false) :
    ((met.setIfInBounds id true).toList.countP fun b => !b) + 1 =
      met.toList.countP fun b => !b := by
  obtain ⟨hlt, hid⟩ : ∃ hlt : id < met.toList.length, met.toList[id] = false := by
    by_cases hlt : id < met.size
    · exact ⟨by simpa using hlt, by simpa [hlt] using h⟩
    · simp [Array.getElem?_eq_none (Nat.not_lt.mp hlt)] at h
  have hpos : 0 < met.toList.countP fun b => !b :=
    List.countP_pos_iff.mpr ⟨_, List.getElem_mem hlt, by simp [hid]⟩
  rw [Array.toList_setIfInBounds, List.countP_set hlt, hid]
  simp only [Bool.not_false, if_true, Bool.not_true, Bool.false_eq_true, if_false]
  omega

/-- Meeting a node leaves at most as many pending. -/
lemma pending_meet (c : Check) (id : Nat) :
    Outcome (fun c d => d.pending ≤ c.pending) (fun _ _ => True) c (c.meet id) := by
  unfold meet
  split
  · exact Nat.le_refl _
  · rename_i hmet
    have hcount := countP_unmet_set c.met id (by simpa using hmet)
    dsimp only
    split
    · unfold Outcome pending
      dsimp only
      rw [List.length_append, List.length_singleton]
      omega
    · split
      · trivial
      · unfold Outcome pending
        dsimp only
        omega

lemma kept_pending : Kept (fun c d => d.pending ≤ c.pending) fun _ _ => True where
  refl _ := Nat.le_refl _
  trans hcd hde := Nat.le_trans hde hcd
  back _ _ := trivial
  malformed _ := trivial
  meet := pending_meet
  merge _ _ _ := Nat.le_refl _
  take c id rest h := by
    have htake := pending_take h
    omega

/-- With as many steps as nodes are pending, no collection is left waiting. -/
lemma waiting_meetWaiting {fuel : Nat} {c d : Check} (hfuel : c.pending ≤ fuel)
    (h : meetWaiting fuel c = .ok d) : d.waiting = [] := by
  induction fuel generalizing c with
  | zero =>
    obtain rfl := Except.ok.inj h
    rw [pending] at hfuel
    exact List.length_eq_zero_iff.mp (by omega)
  | succ fuel ih =>
    unfold meetWaiting at h
    split at h
    · rename_i hwaiting
      exact Except.ok.inj h ▸ hwaiting
    · rename_i id rest hwaiting
      have hmembers := kept_pending.meetMembers { c with waiting := rest } id
      generalize { c with waiting := rest }.meetMembers id = r at hmembers h
      cases r with
      | error f => simp at h
      | ok e =>
        have hless : e.pending ≤ ({ c with waiting := rest } : Check).pending := hmembers
        have htake := pending_take hwaiting
        exact ih (by omega) h

end Check

/-- **Checking comes to its end.**  When a document has been checked, no collection is left whose
members were not looked at. -/
theorem Graph.waiting_eq_nil_of_check {g : Graph} {root : Nat} {c : Check}
    (h : g.check root = .ok c) : c.waiting = [] := by
  have hroot := Check.pending_meet (Check.ofGraph g) root
  have hstart : (Check.ofGraph g).pending = g.nodes.size := by
    simp [Check.pending, Check.ofGraph, List.countP_replicate]
  unfold check at h
  generalize (Check.ofGraph g).meet root = r at hroot h
  cases r with
  | error f => simp at h
  | ok d =>
    have hpending : d.pending ≤ (Check.ofGraph g).pending := hroot
    exact Check.waiting_meetWaiting (hstart ▸ hpending) h

end PathRouter.Yaml
