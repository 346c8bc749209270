import PathRouter.Proofs.Config.Shape
import PathRouter.Value.Key

/-!
# The levels of data that a configuration shows

Data that contains itself has infinitely many levels, of which a value can hold only some.  Here
values are compared down to a level (`Value.AgreeTo`): above it they are the same, and below it they
may differ in any way.

The shape of a configuration takes up five levels: the map, the list of its routes, a route, its
handler, and the map that the handler is given.  So values that agree that far are read alike
(`RouteTableConfig.ofValue_agree`): both fail with the same error, or both are configurations that
differ only in what is further down in the maps of their handlers.
-/

namespace PathRouter

/-! ### Related lists -/

section Lists

variable {α β : Type} {R : α → β → Prop}

/-- An item between others has its counterpart in a related list. -/
lemma exists_split_of_forall₂ {before after : List α} {a : α} {bs : List β}
    (h : List.Forall₂ R (before ++ a :: after) bs) :
    ∃ before' b after', bs = before' ++ b :: after' ∧ List.Forall₂ R before before' ∧ R a b := by
  induction before generalizing bs with
  | nil =>
    obtain ⟨b, after', hb, -, rfl⟩ := List.forall₂_cons_left_iff.mp h
    exact ⟨[], b, after', rfl, .nil, hb⟩
  | cons c before ih =>
    obtain ⟨d, rest, hd, hrest, rfl⟩ := List.forall₂_cons_left_iff.mp h
    obtain ⟨before', b, after', rfl, hbefore, hb⟩ := ih hrest
    exact ⟨d :: before', b, after', rfl, .cons hd hbefore, hb⟩

/-- What holds of all items is handed on to a related list. -/
lemma forall_mem_of_forall₂ {P : α → Prop} {Q : β → Prop} {as : List α} {bs : List β}
    (h : List.Forall₂ R as bs) (hand : ∀ a b, R a b → P a → Q b) (hall : ∀ a ∈ as, P a) :
    ∀ b ∈ bs, Q b := by
  induction h with
  | nil => exact fun b hb => absurd hb List.not_mem_nil
  | @cons a b as bs hab _ ih =>
    rw [List.forall_mem_cons] at hall ⊢
    exact ⟨hand a b hab hall.1, ih hall.2⟩

end Lists

/-- Two results are related, or the errors are the same. -/
inductive SameOutcome {ε α : Type} (R : α → α → Prop) : Except ε α → Except ε α → Prop where
  | ok {a b : α} (related : R a b) : SameOutcome R (.ok a) (.ok b)
  | error (e : ε) : SameOutcome R (.error e) (.error e)

namespace Value

/-! ### Values down to a level -/

/-- Two entries have the same key and related values. -/
def EntryLike (R : Value → Value → Prop) (e f : Value × Value) : Prop := e.1 = f.1 ∧ R e.2 f.2

/-- Two values are the same, or they are of one kind and their parts are related. -/
inductive Like (R : Value → Value → Prop) : Value → Value → Prop where
  | refl (v : Value) : Like R v v
  | list {vs ws : List Value} (items : List.Forall₂ R vs ws) : Like R (.list vs) (.list ws)
  | map {es fs : Entries} (entries : List.Forall₂ (EntryLike R) es fs) : Like R (.map es) (.map fs)
  | pair {a b c d : Value} (first : R a c) (second : R b d) : Like R (.pair a b) (.pair c d)

/-- Two values are the same down to a level. -/
def AgreeTo : Nat → Value → Value → Prop
  | 0 => fun _ _ => True
  | depth + 1 => Like (AgreeTo depth)

/-- The entries of two maps have the same keys, and values that are the same down to a level. -/
abbrev EntriesAgree (depth : Nat) : Entries → Entries → Prop :=
  List.Forall₂ (EntryLike (AgreeTo depth))

lemma AgreeTo.refl (depth : Nat) (v : Value) : AgreeTo depth v v := by
  cases depth with
  | zero => trivial
  | succ depth => exact Like.refl v

lemma EntriesAgree.refl (depth : Nat) (es : Entries) : EntriesAgree depth es es :=
  List.forall₂_same.mpr fun _ _ => ⟨rfl, .refl depth _⟩

lemma Like.imp {R S : Value → Value → Prop} (h : ∀ v w, R v w → S v w) {v w : Value}
    (hvw : Like R v w) : Like S v w := by
  cases hvw with
  | refl => exact .refl v
  | list items => exact .list (items.imp h)
  | map entries => exact .map (entries.imp fun _ _ he => ⟨he.1, h _ _ he.2⟩)
  | pair first second => exact .pair (h _ _ first) (h _ _ second)

/-- Values that agree down to a level agree down to the one above it. -/
lemma AgreeTo.pred {depth : Nat} {v w : Value} (h : AgreeTo (depth + 1) v w) :
    AgreeTo depth v w := by
  induction depth generalizing v w with
  | zero => trivial
  | succ depth ih => exact Like.imp (fun _ _ => ih) h

/-! ### Maps -/

lemma EntriesAgree.map_fst {depth : Nat} {es fs : Entries} (h : EntriesAgree depth es fs) :
    es.map Prod.fst = fs.map Prod.fst := by
  induction h with
  | nil => rfl
  | cons he _ ih => rw [List.map_cons, List.map_cons, he.1, ih]

lemma EntriesAgree.putEntry {depth : Nat} {es fs : Entries} (h : EntriesAgree depth es fs)
    (k : Value) {v w : Value} (hvw : AgreeTo depth v w) :
    EntriesAgree depth (putEntry k v es) (putEntry k w fs) := by
  induction h with
  | nil => exact .cons ⟨rfl, hvw⟩ .nil
  | @cons e f es fs he hes ih =>
    rw [Value.putEntry, Value.putEntry, he.1]
    split
    · exact .cons ⟨rfl, hvw⟩ hes
    · exact .cons he ih

/-- Which entries a map keeps depends on their keys only. -/
lemma EntriesAgree.entriesOf {depth : Nat} {es fs : Entries} (h : EntriesAgree depth es fs) :
    EntriesAgree depth (entriesOf es) (entriesOf fs) := by
  have hfold : ∀ acc acc', EntriesAgree depth acc acc' →
      EntriesAgree depth (es.foldl (fun acc e => Value.putEntry e.1 e.2 acc) acc)
        (fs.foldl (fun acc e => Value.putEntry e.1 e.2 acc) acc') := by
    induction h with
    | nil => exact fun _ _ hacc => hacc
    | @cons e f _ _ he _ ih =>
      intro acc acc' hacc
      rw [List.foldl_cons, List.foldl_cons, he.1]
      exact ih _ _ (hacc.putEntry f.1 he.2)
  exact hfold [] [] .nil

/-- A field of a map is a field of each map that agrees with it. -/
lemma HasField.agree {depth : Nat} {name : String} {es fs : Entries} {v : Value}
    (h : EntriesAgree depth es fs) (hv : HasField name es v) :
    ∃ w, HasField name fs w ∧ AgreeTo depth v w := by
  obtain ⟨before, after, rfl, hbefore⟩ := hv
  obtain ⟨before', ⟨k, w⟩, after', rfl, hbefore', rfl, hw⟩ := exists_split_of_forall₂ h
  exact ⟨w, ⟨before', after', rfl,
    forall_mem_of_forall₂ hbefore' (fun _ _ he hne => he.1 ▸ hne) hbefore⟩, hw⟩

lemma LacksField.agree {depth : Nat} {name : String} {es fs : Entries}
    (h : EntriesAgree depth es fs) (hlacks : LacksField name es) : LacksField name fs :=
  forall_mem_of_forall₂ h (fun _ _ he hne => he.1 ▸ hne) hlacks

/-! ### Kinds of values -/

variable {depth : Nat} {v w : Value}

lemma AgreeTo.typeName_eq (h : AgreeTo (depth + 1) v w) : v.typeName = w.typeName := by
  cases h <;> rfl

lemma AgreeTo.eq_text {s : String} (h : AgreeTo (depth + 1) (.text s) w) : w = .text s := by
  cases h
  rfl

lemma AgreeTo.eq_null (h : AgreeTo (depth + 1) .null w) : w = .null := by
  cases h
  rfl

lemma AgreeTo.exists_map {es : Entries} (h : AgreeTo (depth + 1) (.map es) w) :
    ∃ fs, w = .map fs ∧ EntriesAgree depth es fs := by
  cases h with
  | refl => exact ⟨es, rfl, .refl depth es⟩
  | map entries => exact ⟨_, rfl, entries⟩

lemma AgreeTo.exists_list {vs : List Value} (h : AgreeTo (depth + 1) (.list vs) w) :
    ∃ ws, w = .list ws ∧ List.Forall₂ (AgreeTo depth) vs ws := by
  cases h with
  | refl => exact ⟨vs, rfl, List.forall₂_same.mpr fun v _ => .refl depth v⟩
  | list items => exact ⟨_, rfl, items⟩

lemma AgreeTo.not_isText (h : AgreeTo (depth + 1) v w) (hv : ¬v.IsText) : ¬w.IsText := by
  rintro ⟨s, rfl⟩
  cases h
  exact hv ⟨s, rfl⟩

lemma AgreeTo.not_isMap (h : AgreeTo (depth + 1) v w) (hv : ¬v.IsMap) : ¬w.IsMap := by
  rintro ⟨es, rfl⟩
  cases h <;> exact hv ⟨_, rfl⟩

lemma AgreeTo.not_isList (h : AgreeTo (depth + 1) v w) (hv : ¬v.IsList) : ¬w.IsList := by
  rintro ⟨vs, rfl⟩
  cases h <;> exact hv ⟨_, rfl⟩

lemma AgreeTo.ne_null (h : AgreeTo (depth + 1) v w) (hv : v ≠ .null) : w ≠ .null := by
  rintro rfl
  cases h
  exact hv rfl

end Value

open Value

variable {depth : Nat} {v w : Value}

/-! ### Handlers -/

namespace TypedConfig

/-- Two handlers have one type, and what they are given is the same down to a level. -/
structure AgreeTo (depth : Nat) (h k : TypedConfig) : Prop where
  typeUrl : h.typeUrl = k.typeUrl
  config : EntriesAgree depth h.config k.config

/-- Data that agrees with the data of a handler is the data of a handler. -/
lemma Reads.agree {h : TypedConfig} (hreads : Reads v h) (hvw : v.AgreeTo (depth + 2) w) :
    ∃ k, Reads w k ∧ h.AgreeTo depth k := by
  cases hreads with
  | bare type config =>
    obtain ⟨fs, rfl, hfs⟩ := hvw.exists_map
    obtain ⟨t, htype, ht⟩ := type.agree hfs
    obtain rfl := ht.eq_text
    exact ⟨_, .bare htype (config.agree hfs), rfl, .refl depth []⟩
  | full type config =>
    obtain ⟨fs, rfl, hfs⟩ := hvw.exists_map
    obtain ⟨t, htype, ht⟩ := type.agree hfs
    obtain rfl := ht.eq_text
    obtain ⟨c, hconfig, hc⟩ := config.agree hfs
    obtain ⟨own, rfl, hown⟩ := hc.exists_map
    exact ⟨_, .full htype hconfig, rfl, hown⟩

lemma Defect.agree {e : ConfigError} (hdefect : Defect v e) (hvw : v.AgreeTo (depth + 2) w) :
    Defect w e := by
  cases hdefect with
  | notMap h =>
    rw [hvw.typeName_eq]
    exact .notMap (hvw.not_isMap h)
  | missingType type =>
    obtain ⟨fs, rfl, hfs⟩ := hvw.exists_map
    exact .missingType (type.agree hfs)
  | typeNotText type h =>
    obtain ⟨fs, rfl, hfs⟩ := hvw.exists_map
    obtain ⟨t, htype, ht⟩ := type.agree hfs
    rw [ht.typeName_eq]
    exact .typeNotText htype (ht.not_isText h)
  | configNotMap type config h =>
    obtain ⟨fs, rfl, hfs⟩ := hvw.exists_map
    obtain ⟨t, htype, ht⟩ := type.agree hfs
    obtain rfl := ht.eq_text
    obtain ⟨c, hconfig, hc⟩ := config.agree hfs
    rw [hc.typeName_eq]
    exact .configNotMap htype hconfig (hc.not_isMap h)

end TypedConfig

/-! ### Routes -/

namespace RouteConfig

/-- Two routes have one method and one path, and their handlers agree. -/
structure AgreeTo (depth : Nat) (r s : RouteConfig) : Prop where
  method : r.method = s.method
  path : r.path = s.path
  handler : r.handler.AgreeTo depth s.handler

/-- Data that agrees with the data of a route is the data of a route. -/
lemma Reads.agree {r : RouteConfig} (hreads : Reads v r) (hvw : v.AgreeTo (depth + 3) w) :
    ∃ s, Reads w s ∧ r.AgreeTo depth s := by
  cases hreads with
  | fields method path handler reads =>
    obtain ⟨fs, rfl, hfs⟩ := hvw.exists_map
    obtain ⟨m, hmethod, hm⟩ := method.agree hfs
    obtain rfl := hm.eq_text
    obtain ⟨p, hpath, hp⟩ := path.agree hfs
    obtain rfl := hp.eq_text
    obtain ⟨h, hhandler, hh⟩ := handler.agree hfs
    obtain ⟨k, hk, hagree⟩ := reads.agree hh
    exact ⟨⟨r.method, r.path, k⟩, .fields hmethod hpath hhandler hk, rfl, rfl, hagree⟩

lemma Defect.agree {e : ConfigError} (hdefect : Defect v e) (hvw : v.AgreeTo (depth + 3) w) :
    Defect w e := by
  cases hdefect with
  | notMap h =>
    rw [hvw.typeName_eq]
    exact .notMap (hvw.not_isMap h)
  | missing f lacks earlier =>
    obtain ⟨fs, rfl, hfs⟩ := hvw.exists_map
    refine .missing f (lacks.agree hfs) fun g hg => ?_
    obtain ⟨u, hu⟩ := earlier g hg
    obtain ⟨u', hu', -⟩ := hu.agree hfs
    exact ⟨u', hu'⟩
  | methodNotText method path handler notText =>
    obtain ⟨fs, rfl, hfs⟩ := hvw.exists_map
    obtain ⟨m, hmethod, hm⟩ := method.agree hfs
    obtain ⟨p, hpath, -⟩ := path.agree hfs
    obtain ⟨h, hhandler, -⟩ := handler.agree hfs
    rw [hm.typeName_eq]
    exact .methodNotText hmethod hpath hhandler (hm.not_isText notText)
  | pathNotText method path handler notText =>
    obtain ⟨fs, rfl, hfs⟩ := hvw.exists_map
    obtain ⟨m, hmethod, hm⟩ := method.agree hfs
    obtain rfl := hm.eq_text
    obtain ⟨p, hpath, hp⟩ := path.agree hfs
    obtain ⟨h, hhandler, -⟩ := handler.agree hfs
    rw [hp.typeName_eq]
    exact .pathNotText hmethod hpath hhandler (hp.not_isText notText)
  | handler method path handler defect =>
    obtain ⟨fs, rfl, hfs⟩ := hvw.exists_map
    obtain ⟨m, hmethod, hm⟩ := method.agree hfs
    obtain rfl := hm.eq_text
    obtain ⟨p, hpath, hp⟩ := path.agree hfs
    obtain rfl := hp.eq_text
    obtain ⟨h, hhandler, hh⟩ := handler.agree hfs
    exact .handler hmethod hpath hhandler (defect.agree hh)

/-- Routes are read one by one alike. -/
lemma exists_forall₂_reads {vs ws : List Value} (h : List.Forall₂ (Value.AgreeTo (depth + 3)) vs ws)
    {rs : List RouteConfig} (hrs : List.Forall₂ Reads vs rs) :
    ∃ ss, List.Forall₂ Reads ws ss ∧ List.Forall₂ (AgreeTo depth) rs ss := by
  induction h generalizing rs with
  | nil =>
    obtain rfl := List.forall₂_nil_left_iff.mp hrs
    exact ⟨[], .nil, .nil⟩
  | cons hvw _ ih =>
    obtain ⟨r, rest, hr, hrest, rfl⟩ := List.forall₂_cons_left_iff.mp hrs
    obtain ⟨s, hs, hagree⟩ := hr.agree hvw
    obtain ⟨ss, hss, hall⟩ := ih hrest
    exact ⟨s :: ss, .cons hs hss, .cons hagree hall⟩

end RouteConfig

/-! ### Configurations -/

namespace RouteTableConfig

/-- Two configurations have routes that agree one by one. -/
def AgreeTo (depth : Nat) (c d : RouteTableConfig) : Prop :=
  List.Forall₂ (RouteConfig.AgreeTo depth) c.routes d.routes

lemma Reads.agree {c : RouteTableConfig} (hreads : Reads v c) (hvw : v.AgreeTo (depth + 5) w) :
    ∃ d, Reads w d ∧ c.AgreeTo depth d := by
  cases hreads with
  | routes routes each =>
    obtain ⟨fs, rfl, hfs⟩ := hvw.exists_map
    obtain ⟨l, hroutes, hl⟩ := routes.agree hfs
    obtain ⟨ws, rfl, hws⟩ := hl.exists_list
    obtain ⟨ss, hss, hall⟩ := RouteConfig.exists_forall₂_reads hws each
    exact ⟨⟨ss⟩, .routes hroutes hss, hall⟩

lemma Defect.agree {e : ConfigError} (hdefect : Defect v e) (hvw : v.AgreeTo (depth + 5) w) :
    Defect w e := by
  cases hdefect with
  | notMap h =>
    rw [hvw.typeName_eq]
    exact .notMap (hvw.not_isMap h)
  | missing routes =>
    obtain ⟨fs, rfl, hfs⟩ := hvw.exists_map
    refine .missing (routes.imp (fun h => h.agree hfs) fun h => ?_)
    obtain ⟨n, hn, hnull⟩ := h.agree hfs
    exact hnull.eq_null ▸ hn
  | notList routes notNull h =>
    obtain ⟨fs, rfl, hfs⟩ := hvw.exists_map
    obtain ⟨l, hroutes, hl⟩ := routes.agree hfs
    rw [hl.typeName_eq]
    exact .notList hroutes (hl.ne_null notNull) (hl.not_isList h)
  | route routes leftmost =>
    obtain ⟨fs, rfl, hfs⟩ := hvw.exists_map
    obtain ⟨l, hroutes, hl⟩ := routes.agree hfs
    obtain ⟨ws, rfl, hws⟩ := hl.exists_list
    obtain ⟨before, u, after, rfl, hbefore, hu⟩ := leftmost
    obtain ⟨before', u', after', rfl, hbefore', hu'⟩ := exists_split_of_forall₂ hws
    refine .route hroutes ⟨before', u', after', rfl, ?_, hu.agree hu'⟩
    refine forall_mem_of_forall₂ hbefore' (fun a b hab ha => ?_) hbefore
    obtain ⟨r, hr⟩ := ha
    obtain ⟨s, hs, -⟩ := hr.agree hab
    exact ⟨s, hs⟩

/-- **A configuration shows five levels of its data.**  Values that agree as far are read alike, and
each further level on which they agree is one on which the maps of the handlers agree. -/
theorem ofValue_agree (hvw : v.AgreeTo (depth + 5) w) :
    SameOutcome (AgreeTo depth) (ofValue v) (ofValue w) := by
  rcases reads_or_defect v with ⟨c, hreads⟩ | ⟨e, hdefect⟩
  · obtain ⟨d, hd, hagree⟩ := hreads.agree hvw
    rw [ofValue_of_reads hreads, ofValue_of_reads hd]
    exact .ok hagree
  · rw [ofValue_of_defect hdefect, ofValue_of_defect (hdefect.agree hvw)]
    exact .error e

end RouteTableConfig

end PathRouter
