import Mathlib.Data.Finset.Card
import PathRouter.Proofs.Registry.Alike
import PathRouter.Proofs.Session.Steps

/-!
# Building registries

Factories are added to a builder in any order, and one that is added later replaces an earlier one
of the same handler type.  A registry that is built holds the last factories
(`Registry.HoldsLast`), and in what it answers nothing else is left of the calls that led to it
(`Registry.registries_follow_last_factories`).

Calls after a registry was built do not change it.  `RegistryBuilder.registries` follows a builder
with any factories through its calls, and `Session.registry_after` a session through any commands.
-/

namespace PathRouter

variable {H : Type}

/-! ### Calls to a builder -/

/-- What a builder is asked to do. -/
inductive BuilderCall (H : Type) where
  /-- A factory is added. -/
  | handler (typeUrl : String) (factory : Factory H)
  /-- A registry is built. -/
  | build

namespace BuilderCall

/-- The factory that is added, with the name of its handler type. -/
def added? : BuilderCall H → Option (String × Factory H)
  | handler typeUrl factory => some (typeUrl, factory)
  | build => none

/-- Whether a registry is built. -/
def isBuild : BuilderCall H → Bool
  | handler _ _ => false
  | build => true

end BuilderCall

namespace RegistryBuilder

/-- Factories are added one after the other to those that are there. -/
lemma factories_handlers (b : RegistryBuilder H) (fs : List (String × Factory H)) :
    (b.handlers fs).factories = b.factories.putAll fs := by
  induction fs generalizing b with
  | nil => rfl
  | cons f fs ih => exact ih (b.handler f.1 f.2)

lemma handlers_append (b : RegistryBuilder H) (fs gs : List (String × Factory H)) :
    b.handlers (fs ++ gs) = (b.handlers fs).handlers gs :=
  List.foldl_append

/-- The registries that are built by calls to a builder, in order. -/
def registries (b : RegistryBuilder H) : List (BuilderCall H) → List (Registry H)
  | [] => []
  | .handler typeUrl factory :: calls => (b.handler typeUrl factory).registries calls
  | .build :: calls => b.build :: b.registries calls

lemma length_registries (b : RegistryBuilder H) (calls : List (BuilderCall H)) :
    (b.registries calls).length = calls.countP BuilderCall.isBuild := by
  induction calls generalizing b with
  | nil => rfl
  | cons call calls ih =>
    cases call with
    | handler typeUrl factory =>
      rw [registries, ih, List.countP_cons_of_neg (by simp [BuilderCall.isBuild])]
    | build => rw [registries, List.length_cons, ih, List.countP_cons_of_pos rfl]

/-- Later registries are built from all factories that were added before. -/
lemma registries_append (b : RegistryBuilder H) (calls later : List (BuilderCall H)) :
    b.registries (calls ++ later) =
      b.registries calls ++ (b.handlers (calls.filterMap BuilderCall.added?)).registries later := by
  induction calls generalizing b with
  | nil => rfl
  | cons call calls ih =>
    cases call with
    | handler typeUrl factory => exact ih (b.handler typeUrl factory)
    | build => exact congrArg (b.build :: ·) (ih b)

/-- What is built after some calls has the factories that they added, whatever comes later. -/
theorem getElem?_registries (b : RegistryBuilder H) (calls later : List (BuilderCall H)) :
    (b.registries (calls ++ .build :: later))[calls.countP BuilderCall.isBuild]? =
      some (b.handlers (calls.filterMap BuilderCall.added?)).build := by
  rw [registries_append, ← length_registries b calls, List.getElem?_append_right (Nat.le_refl _),
    Nat.sub_self]
  rfl

end RegistryBuilder

namespace Registry

/-- The factory that was added last for a handler type. -/
def lastFactory? (fs : List (String × Factory H)) (typeUrl : String) : Option (Factory H) :=
  OrderedMap.lookup typeUrl fs.reverse

/-- The registry holds the factories that were added last, and its answers show which handler types
they are for. -/
structure HoldsLast (r : Registry H) (fs : List (String × Factory H)) : Prop where
  factories : ∀ typeUrl, r.factories.get? typeUrl = lastFactory? fs typeUrl
  count : r.count = (fs.map Prod.fst).toFinset.card
  contains : ∀ typeUrl, r.contains typeUrl = true ↔ typeUrl ∈ fs.map Prod.fst
  typeUrls : ∀ ts, ts = r.typeUrls ↔
    ts.Pairwise (· < ·) ∧ ∀ t, t ∈ ts ↔ t ∈ fs.map Prod.fst

/-- A registry holds what was added last before it was built. -/
theorem holdsLast_build (fs : List (String × Factory H)) :
    (RegistryBuilder.empty.handlers fs).build.HoldsLast fs := by
  have hfactories : (RegistryBuilder.empty.handlers fs).build.factories = .ofList fs :=
    RegistryBuilder.empty.factories_handlers fs
  have hkeys : (OrderedMap.ofList fs).keys = (fs.map Prod.fst).eraseDups :=
    OrderedMap.keys_ofList fs
  have hcontains : ∀ typeUrl,
      (RegistryBuilder.empty.handlers fs).build.contains typeUrl = true ↔
        typeUrl ∈ fs.map Prod.fst := by
    intro typeUrl
    rw [contains, hfactories, ← OrderedMap.mem_keys_iff, hkeys, List.mem_eraseDups]
  constructor
  · intro typeUrl
    rw [hfactories, OrderedMap.get?_ofList, lastFactory?]
  · have hset : (fs.map Prod.fst).toFinset = (OrderedMap.ofList fs).keys.toFinset := by
      rw [hkeys]
      ext typeUrl
      simp
    have hnodup : (OrderedMap.ofList fs).keys.Nodup := (OrderedMap.ofList fs).nodup
    rw [hset, List.toFinset_card_of_nodup hnodup, count, hfactories, OrderedMap.size,
      OrderedMap.keys, List.length_map]
  · exact hcontains
  · intro ts
    simp only [eq_typeUrls_iff, hcontains]

/-- Registries that hold the same last factories are indistinguishable. -/
lemma HoldsLast.indistinguishable {r r' : Registry H} {fs fs' : List (String × Factory H)}
    (h : r.HoldsLast fs) (h' : r'.HoldsLast fs')
    (hsame : ∀ typeUrl, lastFactory? fs typeUrl = lastFactory? fs' typeUrl) :
    r.Indistinguishable r' := by
  refine indistinguishable_of_get? fun typeUrl => ?_
  rw [h.factories, h'.factories, hsame]

end Registry

/-! ### Registries of a session -/

namespace Command

/-- The factory that a command adds to the builder, with the name of its handler type. -/
def added? : Command → Option (String × Factory Handler)
  | .factory typeUrl spec => some (typeUrl, spec.make)
  | _ => none

/-- Whether a command keeps a registry under this name. -/
def keepsRegistry (key : String) : Command → Bool
  | .build name => name = key
  | .emptyRegistry name => name = key
  | _ => false

end Command

namespace Session

/-- Few commands have to do with the builder; the others leave it and the registries alone. -/
lemma step_builder_cases (s : Session) (c : Command) :
    (∃ typeUrl spec, c = .factory typeUrl spec) ∨ (∃ name, c = .build name) ∨
      (∃ name, c = .emptyRegistry name) ∨
      (c.added? = none ∧ (s.step c).session.builder = s.builder ∧
        (s.step c).session.registries = s.registries) := by
  cases c with
  | factory typeUrl spec => exact .inl ⟨typeUrl, spec, rfl⟩
  | build name => exact .inr (.inl ⟨name, rfl⟩)
  | emptyRegistry name => exact .inr (.inr (.inl ⟨name, rfl⟩))
  | table name d =>
    refine .inr (.inr (.inr ⟨rfl, ?_⟩))
    cases hname : s.tableNames.get? name with
    | none =>
      rw [step, hname]
      exact ⟨rfl, rfl⟩
    | some n =>
      have hsession := s.tableStep_session n d
      rw [step_table hname, hsession]
      exact ⟨rfl, rfl⟩
  | load registry config name =>
    refine .inr (.inr (.inr ⟨rfl, ?_⟩))
    rcases s.step_load_cases registry config name with ⟨e, log, he⟩ | ⟨r, c, t, -, hloaded⟩
    · rw [he]
      exact ⟨rfl, rfl⟩
    · rw [hloaded]
      exact ⟨rfl, rfl⟩
  | info registry typeUrls =>
    refine .inr (.inr (.inr ⟨rfl, ?_⟩))
    rw [step]
    cases s.registries.get? registry <;> exact ⟨rfl, rfl⟩
  | create name => exact .inr (.inr (.inr ⟨rfl, rfl, rfl⟩))

/-- The builder takes the factory that a command adds. -/
lemma builder_step (s : Session) (c : Command) :
    (s.step c).session.builder = s.builder.handlers c.added?.toList := by
  rcases s.step_builder_cases c with
    ⟨typeUrl, spec, rfl⟩ | ⟨name, rfl⟩ | ⟨name, rfl⟩ | ⟨hadded, hbuilder, -⟩
  · rfl
  · rfl
  · rfl
  · rw [hbuilder, hadded]
    rfl

/-- A registry stays what it is until another is kept under its name. -/
lemma registries_step {s : Session} {key : String} {c : Command}
    (hc : c.keepsRegistry key = false) :
    (s.step c).session.registries.get? key = s.registries.get? key := by
  rcases s.step_builder_cases c with
    ⟨typeUrl, spec, rfl⟩ | ⟨name, rfl⟩ | ⟨name, rfl⟩ | ⟨-, -, hregistries⟩
  · rfl
  · have hname : name ≠ key := by simpa [Command.keepsRegistry] using hc
    exact (OrderedMap.get?_put _ _ _ _).trans (if_neg hname)
  · have hname : name ≠ key := by simpa [Command.keepsRegistry] using hc
    exact (OrderedMap.get?_put _ _ _ _).trans (if_neg hname)
  · rw [hregistries]

/-- The builder has the factories that a run added. -/
lemma builder_after (s : Session) (cs : List Command) :
    (s.after cs).builder = s.builder.handlers (cs.filterMap Command.added?) := by
  induction cs generalizing s with
  | nil => rfl
  | cons c cs ih =>
    have hadded : (c :: cs).filterMap Command.added? =
        c.added?.toList ++ cs.filterMap Command.added? := by
      cases hc : c.added? <;> simp [hc]
    rw [after_cons, ih, builder_step, hadded, RegistryBuilder.handlers_append]

lemma registries_after {s : Session} {key : String} {ds : List Command}
    (hds : ∀ d ∈ ds, d.keepsRegistry key = false) :
    (s.after ds).registries.get? key = s.registries.get? key := by
  induction ds generalizing s with
  | nil => rfl
  | cons d ds ih =>
    rw [List.forall_mem_cons] at hds
    rw [after_cons, ih hds.2, registries_step hds.1]

/-- A registry of a session has the factories that were added before it was built, whatever commands
come later. -/
theorem registry_after {name : String} (cs : List Command) {ds : List Command}
    (hds : ∀ d ∈ ds, d.keepsRegistry name = false) :
    ((∅ : Session).after (cs ++ .build name :: ds)).registries.get? name =
      some (RegistryBuilder.empty.handlers (cs.filterMap Command.added?)).build := by
  rw [after_append, after_cons, registries_after hds]
  refine (OrderedMap.get?_put _ _ _ _).trans ?_
  rw [if_pos rfl, builder_after]
  rfl

/-- A table that is added is found under its name. -/
lemma table?_addTable (s : Session) (name : String) (t : RouteTable Handler) :
    (s.addTable name t).table? name = some t := by
  have hnumber : (s.addTable name t).tableNames.get? name = some s.tables.length :=
    (OrderedMap.get?_put _ _ _ _).trans (if_pos rfl)
  rw [table?, hnumber, Option.bind_some, addTable]
  simp

/-- Indistinguishable registries answer the same about themselves. -/
lemma info_of_indistinguishable {s s' : Session} {name name' : String} {r r' : Registry Handler}
    (hr : s.registries.get? name = some r) (hr' : s'.registries.get? name' = some r')
    (h : r.Indistinguishable r') (typeUrls : List String) :
    (s.step (.info name typeUrls)).answer = (s'.step (.info name' typeUrls)).answer := by
  have hcontains : r.contains = r'.contains := funext h.contains
  rw [step, hr, step, hr']
  dsimp only [answer]
  rw [h.count, h.typeUrls, hcontains]

/-- Indistinguishable registries load the same, in any sessions. -/
lemma load_of_indistinguishable {s s' : Session} {name name' : String} {r r' : Registry Handler}
    (hr : s.registries.get? name = some r) (hr' : s'.registries.get? name' = some r')
    (h : r.Indistinguishable r') (config : Value) (key : String) :
    (s.step (.load name config key)).answer = (s'.step (.load name' config key)).answer ∧
      (s.step (.load name config key)).log = (s'.step (.load name' config key)).log ∧
      ∀ a, (s.step (.load name config key)).answer = .ok a →
        (s.step (.load name config key)).session.table? key =
          (s'.step (.load name' config key)).session.table? key := by
  have hstep : s.step (.load name config key) = s.load r config key := by
    rw [step, hr]
  have hstep' : s'.step (.load name' config key) = s'.load r' config key := by
    rw [step, hr']
  rw [hstep, hstep', load, load]
  cases RouteTableConfig.ofValue config with
  | error e => exact ⟨rfl, rfl, fun a ha => by simp [refuse] at ha⟩
  | ok c =>
    dsimp only
    rw [h.load c]
    cases r'.load c with
    | mk result log =>
      cases result with
      | error e => exact ⟨rfl, rfl, fun a ha => by simp at ha⟩
      | ok t =>
        refine ⟨rfl, rfl, fun a _ => ?_⟩
        exact (s.table?_addTable key t).trans (s'.table?_addTable key t).symm

end Session

namespace Registry

/-- **Registries follow the last factories.**  A builder is called in two ways, with any factories
in any order and with registries built in between, and the same factory is added last for each
handler type.  Then a registry that is built after the one calls and one that is built after the
others are indistinguishable, whatever the builders are used for later.  Each counts the different
handler types, contains these and no others, names them in the one ascending order, and loads every
configuration into the same table or with the same error.  In two sessions the registries give the
same answers, the same log records and the same tables.

Registries that agree on the handler types that a configuration names load it into the same table,
or both fail to load it.  Their errors can differ only in the names of the types that they have. -/
theorem registries_follow_last_factories :
    (∀ {H : Type} (cs cs' ds ds' : List (BuilderCall H)),
      (∀ typeUrl, lastFactory? (cs.filterMap BuilderCall.added?) typeUrl =
        lastFactory? (cs'.filterMap BuilderCall.added?) typeUrl) →
      ∃ r r' : Registry H,
        (RegistryBuilder.empty.registries (cs ++ .build :: ds))[
          cs.countP BuilderCall.isBuild]? = some r ∧
        (RegistryBuilder.empty.registries (cs' ++ .build :: ds'))[
          cs'.countP BuilderCall.isBuild]? = some r' ∧
        r.HoldsLast (cs.filterMap BuilderCall.added?) ∧
        r'.HoldsLast (cs'.filterMap BuilderCall.added?) ∧ r.Indistinguishable r') ∧
    (∀ (cs cs' ds ds' : List Command) (name name' : String),
      (∀ typeUrl, lastFactory? (cs.filterMap Command.added?) typeUrl =
        lastFactory? (cs'.filterMap Command.added?) typeUrl) →
      (∀ d ∈ ds, d.keepsRegistry name = false) → (∀ d ∈ ds', d.keepsRegistry name' = false) →
      let s := (∅ : Session).after (cs ++ .build name :: ds)
      let s' := (∅ : Session).after (cs' ++ .build name' :: ds')
      (∀ typeUrls, (s.step (.info name typeUrls)).answer =
        (s'.step (.info name' typeUrls)).answer) ∧
      ∀ config key,
        let st := s.step (.load name config key)
        let st' := s'.step (.load name' config key)
        st.answer = st'.answer ∧ st.log = st'.log ∧
          ∀ a, st.answer = .ok a → st.session.table? key = st'.session.table? key) ∧
    ∀ {H : Type} (r r' : Registry H) (c : RouteTableConfig),
      (∀ rc ∈ c.routes,
        r.factories.get? rc.handler.typeUrl = r'.factories.get? rc.handler.typeUrl) →
      (r.load c).2 = (r'.load c).2 ∧
      ((∃ t, (r.load c).1 = .ok t ∧ (r'.load c).1 = .ok t) ∨
        ∃ e e', (r.load c).1 = .error e ∧ (r'.load c).1 = .error e' ∧
          (e = e' ∨ ∃ typeUrl, e = .unknownType typeUrl r.typeUrls ∧
            e' = .unknownType typeUrl r'.typeUrls)) := by
  refine ⟨?_, ?_, ?_⟩
  · intro H cs cs' ds ds' hsame
    have hlast := holdsLast_build (cs.filterMap BuilderCall.added?)
    have hlast' := holdsLast_build (cs'.filterMap BuilderCall.added?)
    exact ⟨_, _, RegistryBuilder.empty.getElem?_registries cs ds,
      RegistryBuilder.empty.getElem?_registries cs' ds', hlast, hlast',
      hlast.indistinguishable hlast' hsame⟩
  · intro cs cs' ds ds' name name' hsame hds hds' s s'
    have hr := Session.registry_after cs hds
    have hr' := Session.registry_after cs' hds'
    have hregistries := (holdsLast_build (cs.filterMap Command.added?)).indistinguishable
      (holdsLast_build (cs'.filterMap Command.added?)) hsame
    exact ⟨Session.info_of_indistinguishable hr hr' hregistries,
      Session.load_of_indistinguishable hr hr' hregistries⟩
  · intro H r r' c hagree
    obtain ⟨hresult, hlog⟩ := load_alike hagree
    refine ⟨hlog, ?_⟩
    rcases hresult with hsame | ⟨typeUrl, hload, hload'⟩
    · rw [hsame]
      cases (r'.load c).1 with
      | ok t => exact .inl ⟨t, rfl, rfl⟩
      | error e => exact .inr ⟨e, e, rfl, rfl, .inl rfl⟩
    · exact .inr ⟨_, _, hload, hload', .inr ⟨typeUrl, rfl, rfl⟩⟩

/-- Two builders come to the same factories, one by a detour, and are used on; so do two sessions.
A registry with one more handler type loads the same table where this type is not named. -/
theorem registries_follow_last_factories_detour :
    let one : Factory Nat := fun _ => .ok 1
    let two : Factory Nat := fun _ => .ok 2
    let s : Session := (∅ : Session).after [.factory "app.A" .echo, .factory "app.B" .format,
      .build "r", .factory "app.A" .format]
    let s' : Session := (∅ : Session).after [.factory "app.B" .format, .factory "app.A" .format,
      .factory "app.A" .echo, .build "q", .build "r"]
    let r : Registry Nat := (RegistryBuilder.empty.handler "app.A" one).build
    let r' : Registry Nat :=
      ((RegistryBuilder.empty.handler "app.B" two).handler "app.A" one).build
    let page : RouteConfig := ⟨"GET", "/page", ⟨"app.A", []⟩⟩
    (∃ u u' : Registry Nat,
      (RegistryBuilder.empty.registries [.handler "app.B" one, .handler "app.A" one,
        .handler "app.B" two, .build, .handler "app.A" two])[0]? = some u ∧
      (RegistryBuilder.empty.registries [.handler "app.A" one, .build, .handler "app.B" two,
        .build])[1]? = some u' ∧
      u.count = 2 ∧ u'.typeUrls = ["app.A", "app.B"] ∧ u.Indistinguishable u') ∧
    (s.step (.info "r" ["app.A"])).answer = (s'.step (.info "q" ["app.A"])).answer ∧
    ∃ t, (r.load ⟨[page]⟩).1 = .ok t ∧ (r'.load ⟨[page]⟩).1 = .ok t := by
  intro one two s s' r r' page
  obtain ⟨hbuilders, hsessions, hloads⟩ := registries_follow_last_factories
  refine ⟨?_, ?_, ?_⟩
  · obtain ⟨u, u', hu, hu', hlast, hlast', hsame⟩ := hbuilders
      [.handler "app.B" one, .handler "app.A" one, .handler "app.B" two]
      [.handler "app.A" one, .build, .handler "app.B" two] [.handler "app.A" two] [] (by
        intro typeUrl
        simp only [lastFactory?, List.filterMap_cons, BuilderCall.added?, List.filterMap_nil,
          List.reverse_cons, List.reverse_nil, List.nil_append, List.cons_append,
          OrderedMap.lookup]
        split_ifs <;> rfl)
    have hnames : u'.typeUrls = ["app.A", "app.B"] :=
      ((hlast'.typeUrls _).mpr ⟨by decide, fun t => Iff.rfl⟩).symm
    exact ⟨u, u', hu, hu', hlast.count, hnames, hsame⟩
  · obtain ⟨hinfo, -⟩ := hsessions [.factory "app.A" .echo, .factory "app.B" .format]
      [.factory "app.B" .format, .factory "app.A" .format, .factory "app.A" .echo]
      [.factory "app.A" .format] [.build "r"] "r" "q" (by
        intro typeUrl
        simp only [lastFactory?, List.filterMap_cons, Command.added?, List.filterMap_nil,
          List.reverse_cons, List.reverse_nil, List.nil_append, List.cons_append,
          OrderedMap.lookup]
        split_ifs with hb ha
        · exact absurd (hb.trans ha.symm) (by decide)
        · rfl
        · rfl
        · rfl) (by decide) (by decide)
    exact hinfo ["app.A"]
  · obtain ⟨-, hload | ⟨e, e', hload, -⟩⟩ := hloads r r' ⟨[page]⟩ (by
      intro rc hrc
      rw [List.mem_singleton.mp hrc]
      rfl)
    · exact hload
    · have hok : (r.load ⟨[page]⟩).1.toOption.isSome = true := by decide +kernel
      rw [hload] at hok
      simp [Except.toOption] at hok

end Registry

end PathRouter
