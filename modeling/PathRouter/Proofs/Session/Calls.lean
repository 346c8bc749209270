import PathRouter.Proofs.Session.History
import PathRouter.Proofs.Session.Steps
import PathRouter.Proofs.Table.FirstMatch

/-!
# Which handler is called

Dispatching a request calls the handler of its first match, once and with the captured parameters,
and hands back what it answers (`Session.dispatch_calls_first_match`).  Recorders make this visible:
several routes, also of several tables, may share one, and after a run it holds the parameters of
exactly the requests that were dispatched to it, in their order.

`Session.recorded?` says what one command adds to a recorder, in terms of the table and the request
alone, and `Session.recordings` collects this along a run.  That the recorders follow is shown for
the two things that can be done to them, preparing and calling a handler, then for one command
(`Session.grows_step`), and by induction for a run (`Session.grows_after`).
-/

namespace PathRouter

/-! ### Recorders -/

namespace Recorders

/-- The calls of the recorder with a name; a recorder that was not made yet has none. -/
def callsOf (rs : Recorders) (key : String) : List Params :=
  ((rs.get? key).map Recorder.calls).getD []

/-- The recorder `key` has got the calls `more` behind those that it had, and replies what it
replied before. -/
structure Grows (rs rs' : Recorders) (key : String) (more : List Params) : Prop where
  calls : rs'.callsOf key = rs.callsOf key ++ more
  result : ∀ r, rs.get? key = some r → ∃ r', rs'.get? key = some r' ∧ r'.result = r.result

lemma Grows.refl (rs : Recorders) (key : String) : rs.Grows rs key [] where
  calls := (List.append_nil _).symm
  result r hr := ⟨r, hr, rfl⟩

lemma Grows.trans {rs rs' rs'' : Recorders} {key : String} {more more' : List Params}
    (h : rs.Grows rs' key more) (h' : rs'.Grows rs'' key more') :
    rs.Grows rs'' key (more ++ more') where
  calls := by rw [h'.calls, h.calls, List.append_assoc]
  result r hr := by
    obtain ⟨r', hr', hresult⟩ := h.result r hr
    obtain ⟨r'', hr'', hresult'⟩ := h'.result r' hr'
    exact ⟨r'', hr'', hresult'.trans hresult⟩

/-- What is written to one recorder does not change another. -/
lemma Grows.of_put_ne (rs : Recorders) {name key : String} (h : name ≠ key) (r : Recorder) :
    rs.Grows (rs.put name r) key [] := by
  have hget : (rs.put name r).get? key = rs.get? key := by
    rw [OrderedMap.get?_put, if_neg h]
  constructor
  · rw [callsOf, hget, List.append_nil, callsOf]
  · intro r' hr'
    exact ⟨r', hget.trans hr', rfl⟩

end Recorders

namespace Handler

/-- Whether the handler is the recorder with this name. -/
def records (key : String) : Handler → Bool
  | recording name _ => name = key
  | _ => false

lemma records_eq_true_iff {key : String} {h : Handler} :
    h.records key = true ↔ ∃ result, h = .recording key result := by
  cases h <;> simp [records]

/-- Preparing a handler makes at most a recorder without calls. -/
lemma grows_prepare (h : Handler) (rs : Recorders) (key : String) :
    rs.Grows (h.prepare rs) key [] := by
  cases h with
  | recording name result =>
    rw [prepare]
    split
    · exact .refl rs key
    · rename_i hnew
      by_cases hname : name = key
      · subst hname
        have hnone : rs.get? name = none := by
          simpa [OrderedMap.contains] using hnew
        constructor
        · rw [Recorders.callsOf, OrderedMap.get?_put, if_pos rfl, Recorders.callsOf, hnone]
          rfl
        · intro r hr
          rw [hnone] at hr
          simp at hr
      · exact .of_put_ne rs hname _
  | _ => exact .refl rs key

/-- Calling a handler adds the parameters to its own recorder, if it is one, and nothing else. -/
lemma grows_invoke (h : Handler) (ps : Params) (rs : Recorders) (key : String) :
    rs.Grows (h.invoke ps rs).2 key (if h.records key then [ps] else []) := by
  cases h with
  | recording name result =>
    by_cases hname : name = key
    · subst hname
      rw [records, if_pos (decide_eq_true rfl), invoke]
      constructor
      · rw [Recorders.callsOf, OrderedMap.get?_put, if_pos rfl, Recorders.callsOf]
        cases rs.get? name <;> rfl
      · intro r hr
        refine ⟨_, by rw [OrderedMap.get?_put, if_pos rfl], ?_⟩
        rw [hr]
        rfl
    · rw [records, if_neg (by simpa using hname), invoke]
      exact .of_put_ne rs hname _
  | format template =>
    rw [invoke]
    cases Template.fill template ps <;> exact .refl rs key
  | _ => exact .refl rs key

end Handler

namespace Session

/-! ### One command -/

/-- The parameters that a command to table `n` adds to the recorder `key`: those of a request whose
first match has this recorder as its handler. -/
def added? (s : Session) (n : Nat) (key : String) : TableCommand → Option Params
  | .dispatch method path =>
    ((s.tableAt n).lookup? method path).bind fun hit =>
      if hit.route.handler.records key then some hit.params else none
  | _ => none

/-- The parameters that a command adds to the recorder `key`. -/
def recorded? (s : Session) (key : String) : Command → Option Params
  | .table name c => (s.tableNames.get? name).bind fun n => s.added? n key c
  | _ => none

/-- A command to a table adds to a recorder what a request adds to it that is dispatched. -/
lemma grows_recordersAfter (s : Session) (n : Nat) (c : TableCommand) (key : String) :
    s.recorders.Grows (s.recordersAfter n c) key (s.added? n key c).toList := by
  cases c with
  | register method pattern h => exact h.grows_prepare s.recorders key
  | route method pattern h => exact h.grows_prepare s.recorders key
  | apply name h =>
    rw [recordersAfter]
    cases s.registrations.get? name with
    | none => exact .refl s.recorders key
    | some r => exact h.grows_prepare s.recorders key
  | dispatch method path =>
    rw [recordersAfter, added?]
    cases (s.tableAt n).lookup? method path with
    | none => exact .refl s.recorders key
    | some hit =>
      have hgrows := hit.route.handler.grows_invoke hit.params s.recorders key
      rw [Option.bind_some]
      by_cases hrecords : hit.route.handler.records key = true
      · rw [if_pos hrecords] at hgrows ⊢
        exact hgrows
      · rw [if_neg hrecords] at hgrows ⊢
        exact hgrows
  | _ => exact .refl s.recorders key

/-- What a command adds to the recorders. -/
theorem grows_step (s : Session) (c : Command) (key : String) :
    s.recorders.Grows (s.step c).session.recorders key (s.recorded? key c).toList := by
  rcases s.step_cases c with ⟨name, n, d, rfl, hname⟩ | ⟨hno, hrecorders, -⟩
  · rw [step_table hname, tableStep_session, recorded?, hname]
    exact s.grows_recordersAfter n d key
  · have hnone : s.recorded? key c = none := by
      cases c with
      | table name d => rw [recorded?, hno name d rfl, Option.bind_none]
      | _ => rfl
    rw [hnone, hrecorders]
    exact .refl s.recorders key

/-- A command adds to a recorder when it is a request to a table whose first match has this recorder
as its handler, and then it adds what this match captures. -/
theorem recorded?_eq_some_iff {s : Session} {key : String} {c : Command} {ps : Params} :
    s.recorded? key c = some ps ↔
      ∃ name method path t hit result,
        c = .table name (.dispatch (.text method) (.text path)) ∧ s.table? name = some t ∧
          t.IsFirst method path hit ∧ hit.route.handler = .recording key result ∧
            hit.params = ps := by
  constructor
  · intro h
    cases c with
    | table name d =>
      obtain ⟨n, hname, hadded⟩ := Option.bind_eq_some_iff.mp h
      cases d with
      | dispatch m p =>
        obtain ⟨hit, hhit, hparams⟩ := Option.bind_eq_some_iff.mp hadded
        obtain ⟨method, path, rfl, rfl, hfirst⟩ := RouteTable.lookup?_eq_some_iff.mp hhit
        obtain ⟨hrecords, hsame⟩ : hit.route.handler.records key = true ∧ hit.params = ps := by
          simpa using hparams
        obtain ⟨result, hhandler⟩ := Handler.records_eq_true_iff.mp hrecords
        have htable : s.table? name = some (s.tableAt n) := by
          rw [table?, hname, Option.bind_some, tableAt]
          cases ht : s.tables[n]? with
          | some t => rfl
          | none =>
            -- A number without a table counts as the empty table, which has no matches.
            rw [tableAt, ht] at hfirst
            exact absurd (List.mem_of_getElem? hfirst.place) List.not_mem_nil
        exact ⟨name, method, path, _, hit, result, rfl, htable, hfirst, hhandler, hsame⟩
      | _ => simp [added?] at hadded
    | _ => simp [recorded?] at h
  · rintro ⟨name, method, path, t, hit, result, rfl, ht, hfirst, hhandler, rfl⟩
    obtain ⟨n, hname, hn⟩ := Option.bind_eq_some_iff.mp ht
    have hat : s.tableAt n = t := by
      rw [tableAt, hn, Option.getD_some]
    have hhit := RouteTable.lookup?_eq_some_iff.mpr ⟨method, path, rfl, rfl, hfirst⟩
    have hrecords := Handler.records_eq_true_iff.mpr ⟨result, hhandler⟩
    rw [recorded?, hname, Option.bind_some, added?, hat, hhit, Option.bind_some, if_pos hrecords]

/-! ### Runs -/

/-- The parameters that a run adds to the recorder `key`, in order. -/
def recordings (s : Session) (key : String) : List Command → List Params
  | [] => []
  | c :: cs => (s.recorded? key c).toList ++ (s.step c).session.recordings key cs

/-- A recorder has got what the commands of a run add to it, one after the other. -/
theorem grows_after (s : Session) (cs : List Command) (key : String) :
    s.recorders.Grows (s.after cs).recorders key (s.recordings key cs) := by
  induction cs generalizing s with
  | nil => exact .refl s.recorders key
  | cons c cs ih =>
    rw [after_cons]
    exact (s.grows_step c key).trans (ih (s.step c).session)

/-! ### Answers -/

/-- A request is answered that there is nothing to be found when it misses, or when the handler of
its first match replies so. -/
lemma dispatch_notFound_iff (s : Session) (t : RouteTable Handler) (m p : Value) :
    (s.dispatch t m p).answer = .ok (.reply .notFound) ↔
      t.Misses m p ∨ ∃ method path hit, m = .text method ∧ p = .text path ∧
        t.IsFirst method path hit ∧
          (hit.route.handler.invoke hit.params s.recorders).1 = .ok .notFound := by
  cases hhit : t.lookup? m p with
  | none =>
    rw [dispatch_of_none hhit]
    exact iff_of_true rfl (.inl (RouteTable.lookup?_eq_none_iff.mp hhit))
  | some hit =>
    have hsame : ∀ o : Except HandlerError Reply,
        (o.map Answer.reply).mapError SessionError.handler = .ok (.reply .notFound) ↔
          o = .ok .notFound := by
      intro o
      cases o <;> simp [Except.map, Except.mapError]
    rw [dispatch_of_some hhit, hsame]
    constructor
    · intro hreply
      obtain ⟨method, path, hm, hp, hfirst⟩ := RouteTable.lookup?_eq_some_iff.mp hhit
      exact .inr ⟨method, path, hit, hm, hp, hfirst, hreply⟩
    · rintro (hmisses | ⟨method, path, hit', hm, hp, hfirst, hreply⟩)
      · rw [RouteTable.lookup?_eq_none_iff.mpr hmisses] at hhit
        simp at hhit
      · have hhit' := RouteTable.lookup?_eq_some_iff.mpr ⟨method, path, hm, hp, hfirst⟩
        obtain rfl : hit = hit' := Option.some_inj.mp (hhit.symm.trans hhit')
        exact hreply

/-- **Dispatching calls the first match.**  After any run a recorder holds, in order, the parameters
that the commands added to it, and later commands only add more.  A command adds to a recorder only
as a request to a table whose first match has this recorder as its handler, and then it adds what
this match captures, once.  In a session such a request is answered with the reply or the error of
the handler, a request without a match with the reply that there is nothing to be found, and nothing
but the recorders changes.  Whatever the handlers of a table are, a request is handed to the one of
its first match, or to nobody. -/
theorem dispatch_calls_first_match :
    (∀ (cs ds : List Command) (key : String),
      let s := (∅ : Session).after cs
      s.recorders.callsOf key = (∅ : Session).recordings key cs ∧
        s.recorders.Grows (s.after ds).recorders key (s.recordings key ds)) ∧
    (∀ (s : Session) (key : String) (c : Command) (ps : Params), s.recorded? key c = some ps ↔
      ∃ name method path t hit result,
        c = .table name (.dispatch (.text method) (.text path)) ∧ s.table? name = some t ∧
          t.IsFirst method path hit ∧ hit.route.handler = .recording key result ∧
            hit.params = ps) ∧
    (∀ (s : Session) (name : String) (t : RouteTable Handler), s.table? name = some t →
      (∀ key r, s.recorders.get? key = some r →
        (s.step (.table name (.calls key))).answer = .ok (.calls (s.recorders.callsOf key))) ∧
      (∀ method path hit, t.IsFirst method path hit →
        let outcome := hit.route.handler.invoke hit.params s.recorders
        let st := s.step (.table name (.dispatch (.text method) (.text path)))
        st.answer = (outcome.1.map Answer.reply).mapError SessionError.handler ∧
          st.session = { s with recorders := outcome.2 }) ∧
      ∀ m p : Value,
        let st := s.step (.table name (.dispatch m p))
        (t.Misses m p → st.answer = .ok (.reply .notFound) ∧ st.session = s) ∧
        (st.answer = .ok (.reply .notFound) ↔
          t.Misses m p ∨ ∃ method path hit, m = .text method ∧ p = .text path ∧
            t.IsFirst method path hit ∧
              (hit.route.handler.invoke hit.params s.recorders).1 = .ok .notFound)) ∧
    ∀ {H α : Type} (t : RouteTable H) (invoke : H → Params → α) (missed : α),
      (∀ method path hit, t.IsFirst method path hit →
        t.dispatch invoke missed (.text method) (.text path) =
          invoke hit.route.handler hit.params) ∧
      ∀ m p : Value, (t.Misses m p → t.dispatch invoke missed m p = missed) ∧
        (t.Misses m p ∨
          ∃ method path hit, m = .text method ∧ p = .text path ∧ t.IsFirst method path hit) := by
  refine ⟨?_, fun s key c ps => recorded?_eq_some_iff, ?_, ?_⟩
  · intro cs ds key s
    have hcalls := ((∅ : Session).grows_after cs key).calls
    have hempty : (∅ : Session).recorders.callsOf key = [] := rfl
    rw [hempty, List.nil_append] at hcalls
    exact ⟨hcalls, s.grows_after ds key⟩
  · intro s name t ht
    refine ⟨?_, ?_, ?_⟩
    · intro key r hr
      obtain ⟨n, -, -, hstep⟩ := exists_number ht
      rw [hstep, tableStep, hr, Recorders.callsOf, hr]
      rfl
    · intro method path hit hfirst
      dsimp only
      have hhit := RouteTable.lookup?_eq_some_iff.mpr ⟨method, path, rfl, rfl, hfirst⟩
      rw [step_dispatch ht, dispatch_of_some hhit]
      exact ⟨rfl, rfl⟩
    · intro m p
      dsimp only
      rw [step_dispatch ht]
      refine ⟨fun hmisses => ?_, s.dispatch_notFound_iff t m p⟩
      rw [dispatch_of_none (RouteTable.lookup?_eq_none_iff.mpr hmisses)]
      exact ⟨rfl, rfl⟩
  · intro H α t invoke missed
    exact ⟨fun method path hit hfirst => hfirst.dispatch_eq invoke missed,
      fun m p => ⟨fun hmisses => hmisses.dispatch_eq invoke missed, t.misses_or_isFirst m p⟩⟩

/-- A table of users and a table of pages share a recorder.  It holds the two requests that were
dispatched to it, but neither the one that missed nor the one that was only asked about, and it
replies to a further request. -/
theorem dispatch_calls_first_match_shared :
    let cs : List Command := [.create "users", .create "pages",
      .table "users" (.register "GET" "/user/:id(int)" (.recording "seen" (.text "ok"))),
      .table "pages" (.register "GET" "/:page(string)" (.recording "seen" (.text "ok"))),
      .table "users" (.dispatch (.text "GET") (.text "/user/42")),
      .table "pages" (.dispatch (.text "GET") (.text "/home")),
      .table "users" (.dispatch (.text "GET") (.text "/home")),
      .table "users" (.find (.text "GET") (.text "/user/7"))]
    let s := (∅ : Session).after cs
    (s.recorders.callsOf "seen").map (·.entries) = [[("id", "42")], [("page", "home")]] ∧
    (s.step (.table "users" (.dispatch (.text "GET") (.text "/home")))).answer =
      .ok (.reply .notFound) ∧
    (s.step (.table "users" (.dispatch (.text "GET") (.text "/user/7")))).answer =
      .ok (.reply (.value (.text "ok"))) := by
  intro cs s
  obtain ⟨hcalls, hrecorded, hsession, -⟩ := dispatch_calls_first_match
  have hrun : ((∅ : Session).recordings "seen" cs).map (·.entries) =
      [[("id", "42")], [("page", "home")]] := by decide +kernel
  have hreplies : (s.recorders.get? "seen").map Recorder.result = some (.text "ok") := by
    rfl
  have htable : (s.table? "users").isSome = true := by decide +kernel
  have hmissed : ((s.table? "users").bind fun t =>
      t.lookup? (.text "GET") (.text "/home")).isNone = true := by decide +kernel
  have hnext : (s.recorded? "seen"
      (.table "users" (.dispatch (.text "GET") (.text "/user/7")))).isSome = true := by
    decide +kernel
  refine ⟨?_, ?_, ?_⟩
  · rw [(hcalls cs [] "seen").1]
    exact hrun
  · obtain ⟨t, ht⟩ := Option.isSome_iff_exists.mp htable
    rw [ht, Option.bind_some, Option.isNone_iff_eq_none] at hmissed
    have hmisses := RouteTable.lookup?_eq_none_iff.mp hmissed
    exact (((hsession s "users" t ht).2.2 _ _).1 hmisses).1
  · obtain ⟨ps, hps⟩ := Option.isSome_iff_exists.mp hnext
    obtain ⟨name, method, path, t, hit, result, hc, ht, hfirst, hhandler, -⟩ :=
      (hrecorded s "seen" _ ps).mp hps
    obtain ⟨rfl, rfl, rfl⟩ : "users" = name ∧ "GET" = method ∧ "/user/7" = path := by
      simpa using hc
    obtain ⟨r, hr, hresult⟩ := Option.map_eq_some_iff.mp hreplies
    have hanswer := ((hsession s "users" t ht).2.1 _ _ hit hfirst).1
    rw [hhandler, Handler.invoke, hr, Option.getD_some, hresult] at hanswer
    exact hanswer

end Session

end PathRouter
