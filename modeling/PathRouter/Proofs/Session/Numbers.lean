import PathRouter.Proofs.Session.Tables

/-!
# Numbers of tables

A session refers to its tables by numbers, and no table is ever taken away.  Names and kept
registrations therefore refer to tables that there are (`Session.Numbered`): this holds at the
beginning, adding a table preserves it (`Session.Numbered.addTable`), and so does every command
(`Session.Numbered.step`).  A command of a run can then ask only tables that there are
(`Session.Numbered.asked`).
-/

namespace PathRouter.Session

/-- Names and kept registrations refer to tables that there are. -/
structure Numbered (s : Session) : Prop where
  names : ∀ name n, s.tableNames.get? name = some n → n < s.tables.length
  registrations : ∀ name r, s.registrations.get? name = some r → r.table < s.tables.length

namespace Numbered

variable {s : Session}

/-- A registration is asked of a table that there is. -/
lemma asked (h : s.Numbered) {c : Command} {n : Nat} {ev : TableEvent Handler}
    (hasked : s.asked? c = some (n, ev)) : n < s.tables.length := by
  cases c with
  | table name d =>
    obtain ⟨m, hname, hrequest⟩ := Option.bind_eq_some_iff.mp hasked
    have hm := h.names name m hname
    cases d with
    | apply key handler =>
      obtain ⟨r, hr, hevent⟩ := Option.map_eq_some_iff.mp hrequest
      obtain ⟨rfl, -⟩ := Prod.mk.inj hevent
      exact h.registrations key r hr
    | register method pattern handler =>
      obtain ⟨rfl, -⟩ := Prod.mk.inj (Option.some_inj.mp hrequest)
      exact hm
    | route method pattern handler =>
      obtain ⟨rfl, -⟩ := Prod.mk.inj (Option.some_inj.mp hrequest)
      exact hm
    | freeze =>
      obtain ⟨rfl, -⟩ := Prod.mk.inj (Option.some_inj.mp hrequest)
      exact hm
    | _ => simp [request?] at hrequest
  | _ => simp [asked?] at hasked

/-- A table that is added gets the next number. -/
lemma addTable (h : s.Numbered) (name : String) (t : RouteTable Handler) :
    (s.addTable name t).Numbered := by
  have hlength : (s.addTable name t).tables.length = s.tables.length + 1 := List.length_append
  constructor
  · intro key n hn
    rw [hlength]
    rw [Session.addTable, OrderedMap.get?_put] at hn
    split at hn
    · rw [← Option.some_inj.mp hn]
      exact Nat.lt_succ_self _
    · exact Nat.lt_succ_of_lt (h.names key n hn)
  · intro key r hr
    rw [hlength]
    exact Nat.lt_succ_of_lt (h.registrations key r hr)

/-- Every command keeps to numbers of tables. -/
lemma step (h : s.Numbered) (c : Command) : (s.step c).session.Numbered := by
  cases c with
  | table name d =>
    cases hname : s.tableNames.get? name with
    | none =>
      rw [Session.step, hname]
      exact h
    | some n =>
      have hlength : (s.tablesAfter (s.request? n d)).length = s.tables.length := by
        cases s.request? n d <;> simp [tablesAfter]
      rw [step_table hname, tableStep_session]
      constructor
      · intro key m hm
        rw [hlength]
        exact h.names key m hm
      · intro key r hr
        rw [hlength]
        cases d with
        | keep other method pattern =>
          rw [registrationsAfter, OrderedMap.get?_put] at hr
          split at hr
          · rw [← Option.some_inj.mp hr]
            exact h.names name n hname
          · exact h.registrations key r hr
        | _ => exact h.registrations key r hr
  | create name => exact h.addTable name ∅
  | load registry config name =>
    rcases s.step_load_cases registry config name with ⟨e, log, he⟩ | ⟨r, c, t, -, hloaded⟩
    · rw [he]
      exact h
    · rw [hloaded]
      exact h.addTable name t
  | info registry typeUrls =>
    rw [Session.step]
    cases s.registries.get? registry <;> exact h
  | factory typeUrl spec => exact ⟨h.names, h.registrations⟩
  | build name => exact ⟨h.names, h.registrations⟩
  | emptyRegistry name => exact ⟨h.names, h.registrations⟩

/-- So does every run. -/
lemma after (h : s.Numbered) (cs : List Command) : (s.after cs).Numbered := by
  induction cs generalizing s with
  | nil => exact h
  | cons c cs ih =>
    rw [after_cons]
    exact ih (h.step c)

end Numbered

/-- There are no names at the beginning. -/
lemma numbered_empty : (∅ : Session).Numbered where
  names name n h := by
    have hnone : (∅ : Session).tableNames.get? name = none := rfl
    exact absurd (hnone.symm.trans h) (by simp)
  registrations name r h := by
    have hnone : (∅ : Session).registrations.get? name = none := rfl
    exact absurd (hnone.symm.trans h) (by simp)

/-- After every run, names and kept registrations refer to tables that there are. -/
theorem numbered_of_run (cs : List Command) : ((∅ : Session).after cs).Numbered :=
  numbered_empty.after cs

end PathRouter.Session
