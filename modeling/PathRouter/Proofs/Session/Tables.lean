import PathRouter.Proofs.Session.Steps

/-!
# The tables of a session

A session works with any number of tables, and a run mixes commands to all of them.  This file says
what becomes of one table in such a run.

A command asks for at most one event of one table (`Session.asked?`).  It changes the tables by this
event and may put a new one behind them (`Session.tables_step`).  A table therefore goes through the
events that are asked of it (`Session.history`) and through nothing else (`Session.tables_after`).
In particular it only grows, and each of its new routes was put there by one command of the run
(`Session.exists_registers`).
-/

namespace PathRouter

namespace Session

/-! ### One command -/

/-- The event that a command asks for, and the number of the table it concerns. -/
def asked? (s : Session) : Command → Option (Nat × TableEvent Handler)
  | .table name c => (s.tableNames.get? name).bind fun n => s.request? n c
  | _ => none

/-- The event that a command asks of table `n`. -/
def eventAt? (s : Session) (n : Nat) (c : Command) : Option (TableEvent Handler) :=
  (s.asked? c).bind fun a => if a.1 = n then some a.2 else none

/-- A command changes the tables by the event that it asks for.  Tables that it adds are empty or
loaded. -/
theorem tables_step (s : Session) (c : Command) :
    ∃ new, (s.step c).session.tables = s.tablesAfter (s.asked? c) ++ new ∧
      ∀ t ∈ new, t = ∅ ∨ ∃ (r : Registry Handler) (config : RouteTableConfig),
        (r.load config).1 = .ok t := by
  rcases s.step_cases c with ⟨name, n, d, rfl, hname⟩ | ⟨hno, -, new, htables, hnew⟩
  · have hsession := s.tableStep_session n d
    refine ⟨[], ?_, by simp⟩
    rw [step_table hname, hsession, asked?, hname, Option.bind_some, List.append_nil]
  · have hasked : s.asked? c = none := by
      cases c with
      | table name d => rw [asked?, hno name d rfl, Option.bind_none]
      | _ => rfl
    refine ⟨new, ?_, hnew⟩
    rw [hasked]
    exact htables

/-- A table changes by the event that is asked of it. -/
lemma getElem?_tables_step {s : Session} {n : Nat} {t : RouteTable Handler}
    (h : s.tables[n]? = some t) (c : Command) :
    (s.step c).session.tables[n]? = some (t.afterAll (s.eventAt? n c).toList) := by
  obtain ⟨hn, rfl⟩ := List.getElem?_eq_some_iff.mp h
  obtain ⟨new, htables, -⟩ := s.tables_step c
  rw [htables]
  unfold eventAt?
  cases hasked : s.asked? c with
  | none => exact (List.getElem?_append_left hn).trans h
  | some request =>
    obtain ⟨m, ev⟩ := request
    have hlen : n < (s.tablesAfter (some (m, ev))).length := by simpa [tablesAfter] using hn
    rw [List.getElem?_append_left hlen, tablesAfter, List.getElem?_set, Option.bind_some]
    by_cases hm : m = n
    · subst hm
      have hat : s.tableAt m = s.tables[m] := by
        rw [tableAt, h, Option.getD_some]
      simp [hn, hat, RouteTable.afterAll]
    · simp [hm, hn, RouteTable.afterAll]

/-! ### Runs -/

/-- The events that the commands of a run ask of table `n`. -/
def history (s : Session) (n : Nat) : List Command → List (TableEvent Handler)
  | [] => []
  | c :: cs => (s.eventAt? n c).toList ++ (s.step c).session.history n cs

/-- A table goes through the events that are asked of it. -/
theorem tables_after {s : Session} {n : Nat} {t : RouteTable Handler} (h : s.tables[n]? = some t)
    (cs : List Command) : (s.after cs).tables[n]? = some (t.afterAll (s.history n cs)) := by
  induction cs generalizing s t with
  | nil => exact h
  | cons c cs ih =>
    rw [after_cons, ih (getElem?_tables_step h c), history, RouteTable.afterAll_append]

/-- The command puts the route `r` behind the `i` routes that table `n` has. -/
structure Registers (s : Session) (n : Nat) (c : Command) (i : Nat) (r : Route Handler) : Prop where
  /-- It asks for the registration of an entry that becomes this route. -/
  asked : ∃ e, s.asked? c = some (n, .register e) ∧ e.Compiles r
  /-- The table is open, and gets the route as its last one. -/
  appended : ∃ t : RouteTable Handler, s.tables[n]? = some t ∧ t.frozen = false ∧ t.size = i ∧
    (s.step c).session.tables[n]? = some { t with routes := t.routes ++ [r] }

/-- A route that a command adds to a table is registered by it. -/
lemma registers_of_not_mem {s : Session} {n : Nat} {t : RouteTable Handler}
    (h : s.tables[n]? = some t) {c : Command} {i : Nat} {r : Route Handler} (hi : t.size ≤ i)
    (hr : (t.afterAll (s.eventAt? n c).toList).routes[i]? = some r) : s.Registers n c i r := by
  have hold : t.routes[i]? = none := List.getElem?_eq_none hi
  cases hevent : s.eventAt? n c with
  | none =>
    rw [hevent] at hr
    exact absurd (hold.symm.trans hr) (by simp)
  | some ev =>
    have hasked : s.asked? c = some (n, ev) := by
      obtain ⟨⟨m, ev'⟩, hasked, hm⟩ := Option.bind_eq_some_iff.mp hevent
      by_cases hmn : m = n
      · obtain rfl : ev' = ev := by simpa [hmn] using hm
        rw [hasked, hmn]
      · simp [hmn] at hm
    have hstep := getElem?_tables_step h c
    rw [hevent, Option.toList_some, RouteTable.afterAll, List.foldl_cons,
      List.foldl_nil] at hr hstep
    rcases t.after_cases ev with hsame | ⟨e, r', rfl, hcompiles, hopen, happended⟩
    · rw [hsame] at hr
      exact absurd (hold.symm.trans hr) (by simp)
    · rw [happended] at hr hstep
      have hilt : i < t.routes.length + 1 := by
        simpa using (List.getElem?_eq_some_iff.mp hr).1
      have hsize : t.size = i := Nat.le_antisymm hi (Nat.le_of_lt_succ hilt)
      obtain rfl : r' = r := by
        rw [← hsize, RouteTable.size] at hr
        simpa using hr
      exact ⟨⟨e, hasked, hcompiles⟩, t, h, hopen, hsize, hstep⟩

/-- A route that a table has after a run, and did not have before it, was registered by one command
of the run. -/
theorem exists_registers {s : Session} {n : Nat} {t : RouteTable Handler}
    (h : s.tables[n]? = some t) {cs : List Command} {i : Nat} {r : Route Handler}
    (hi : t.size ≤ i) (hr : (t.afterAll (s.history n cs)).routes[i]? = some r) :
    ∃ before c after, cs = before ++ c :: after ∧ (s.after before).Registers n c i r := by
  induction cs generalizing s t with
  | nil =>
    have hold : t.routes[i]? = none := List.getElem?_eq_none hi
    exact absurd (hold.symm.trans hr) (by simp)
  | cons c cs ih =>
    have hstep := getElem?_tables_step h c
    rw [history, RouteTable.afterAll_append] at hr
    by_cases hnow : i < (t.afterAll (s.eventAt? n c).toList).routes.length
    · -- The route stays where it is after the command that registers it.
      obtain ⟨more, hlater⟩ := RouteTable.routes_prefix_afterAll
        (t.afterAll (s.eventAt? n c).toList) ((s.step c).session.history n cs)
      rw [← hlater, List.getElem?_append_left hnow] at hr
      exact ⟨[], c, cs, rfl, registers_of_not_mem h hi hr⟩
    · obtain ⟨before, d, after, rfl, hd⟩ := ih hstep (Nat.not_lt.mp hnow) hr
      refine ⟨c :: before, d, after, rfl, ?_⟩
      rw [after_cons]
      exact hd

end Session

end PathRouter
