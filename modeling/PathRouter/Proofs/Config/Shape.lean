import PathRouter.Config
import PathRouter.Proofs.Follows

/-!
# The shape of a configuration

What data must look like to be a configuration, apart from how it is read.  At each of its three
levels there is a relation between data and what it reads as (`Reads`), in which only the fields of
that level occur, and one between data and the first thing that is wrong with it (`Defect`).

The main statement `RouteTableConfig.ofValue_follows_shape` says that the reader follows both, and
that a configuration is read back from its data.  It goes level by level: the reader of a handler,
that of a route, and that of the list of routes each follow their descriptions.
-/

namespace PathRouter

namespace Value

/-- The value is a text. -/
def IsText (v : Value) : Prop := ∃ s, v = .text s

/-- The value is a list. -/
def IsList (v : Value) : Prop := ∃ vs, v = .list vs

/-- The value is a map. -/
def IsMap (v : Value) : Prop := ∃ entries, v = .map entries

/-- The map has a field: `v` is the value of the first entry at the text key. -/
def HasField (name : String) (entries : Entries) (v : Value) : Prop :=
  ∃ before after, entries = before ++ (.text name, v) :: after ∧ ∀ e ∈ before, e.1 ≠ .text name

/-- The map does not have a field: no entry is at the text key. -/
def LacksField (name : String) (entries : Entries) : Prop := ∀ e ∈ entries, e.1 ≠ .text name

lemma field?_cons_self (name : String) (v : Value) (es : Entries) :
    field? name ((.text name, v) :: es) = some v := by
  rw [field?, if_pos rfl]

lemma field?_cons_of_ne {name : String} {k : Value} (h : k ≠ .text name) (v : Value)
    (es : Entries) : field? name ((k, v) :: es) = field? name es := by
  cases k with
  | text s =>
    have hs : s ≠ name := fun he => h (by rw [he])
    rw [field?, if_neg hs]
  | _ => rfl

/-- A map has a field or lacks it. -/
lemma lacksField_or_hasField (name : String) (entries : Entries) :
    LacksField name entries ∨ ∃ v, HasField name entries v := by
  induction entries with
  | nil => exact .inl fun e he => absurd he List.not_mem_nil
  | cons e es ih =>
    by_cases hkey : e.1 = .text name
    · exact .inr ⟨e.2, [], es, by rw [← hkey]; rfl, by simp⟩
    · rcases ih with hlacks | ⟨v, before, after, rfl, hbefore⟩
      · exact .inl (List.forall_mem_cons.mpr ⟨hkey, hlacks⟩)
      · exact .inr ⟨v, e :: before, after, rfl, List.forall_mem_cons.mpr ⟨hkey, hbefore⟩⟩

/-- A field that is there is found. -/
lemma field?_of_hasField {name : String} {entries : Entries} {v : Value}
    (h : HasField name entries v) : field? name entries = some v := by
  obtain ⟨before, after, rfl, hbefore⟩ := h
  induction before with
  | nil => exact field?_cons_self name v after
  | cons e before ih =>
    rw [List.forall_mem_cons] at hbefore
    rw [List.cons_append, field?_cons_of_ne hbefore.1, ih hbefore.2]

/-- A field that is not there is not found. -/
lemma field?_of_lacksField {name : String} {entries : Entries} (h : LacksField name entries) :
    field? name entries = none := by
  induction entries with
  | nil => rfl
  | cons e es ih =>
    obtain ⟨hkey, hes⟩ := List.forall_mem_cons.mp h
    rw [field?_cons_of_ne hkey, ih hes]

end Value

open Value

/-! ### Handlers -/

namespace TypedConfig

/-- The data of a handler names its type.  It may have a map of its own; without one it has the
empty map. -/
inductive Reads : Value → TypedConfig → Prop where
  | bare {entries : Entries} {typeUrl : String} (type : HasField "type_url" entries (.text typeUrl))
      (config : LacksField "config" entries) : Reads (.map entries) ⟨typeUrl, []⟩
  | full {entries own : Entries} {typeUrl : String}
      (type : HasField "type_url" entries (.text typeUrl))
      (config : HasField "config" entries (.map own)) : Reads (.map entries) ⟨typeUrl, own⟩

/-- The first thing that is wrong with the data of a handler. -/
inductive Defect : Value → ConfigError → Prop where
  | notMap {v : Value} (h : ¬v.IsMap) : Defect v (.handlerNotMap v.typeName)
  | missingType {entries : Entries} (type : LacksField "type_url" entries) :
      Defect (.map entries) .missingType
  | typeNotText {entries : Entries} {v : Value} (type : HasField "type_url" entries v)
      (h : ¬v.IsText) : Defect (.map entries) (.typeNotText v.typeName)
  /-- Also `null` is no map. -/
  | configNotMap {entries : Entries} {typeUrl : String} {v : Value}
      (type : HasField "type_url" entries (.text typeUrl)) (config : HasField "config" entries v)
      (h : ¬v.IsMap) : Defect (.map entries) (.configNotMap v.typeName)

lemma ofValue_of_reads {v : Value} {h : TypedConfig} (hreads : Reads v h) :
    ofValue v = .ok h := by
  cases hreads with
  | bare type config =>
    simp only [ofValue, field?_of_hasField type, field?_of_lacksField config]
  | full type config =>
    simp only [ofValue, field?_of_hasField type, field?_of_hasField config]

lemma ofValue_of_defect {v : Value} {e : ConfigError} (hdefect : Defect v e) :
    ofValue v = .error e := by
  cases hdefect with
  | notMap h =>
    cases v with
    | map entries => exact absurd ⟨entries, rfl⟩ h
    | _ => rfl
  | missingType type => simp only [ofValue, field?_of_lacksField type]
  | @typeNotText _ v type h =>
    rw [ofValue, field?_of_hasField type]
    cases v with
    | text s => exact absurd ⟨s, rfl⟩ h
    | _ => rfl
  | @configNotMap _ _ v type config h =>
    simp only [ofValue, field?_of_hasField type, field?_of_hasField config]
    cases v with
    | map entries => exact absurd ⟨entries, rfl⟩ h
    | _ => rfl

/-- Data is the data of a handler, or something is wrong with it. -/
lemma reads_or_defect (v : Value) : (∃ h, Reads v h) ∨ ∃ e, Defect v e := by
  by_cases hmap : v.IsMap
  · obtain ⟨entries, rfl⟩ := hmap
    rcases lacksField_or_hasField "type_url" entries with htype | ⟨t, htype⟩
    · exact .inr ⟨_, .missingType htype⟩
    by_cases htext : t.IsText
    · obtain ⟨typeUrl, rfl⟩ := htext
      rcases lacksField_or_hasField "config" entries with hconfig | ⟨c, hconfig⟩
      · exact .inl ⟨_, .bare htype hconfig⟩
      by_cases hc : c.IsMap
      · obtain ⟨config, rfl⟩ := hc
        exact .inl ⟨_, .full htype hconfig⟩
      · exact .inr ⟨_, .configNotMap htype hconfig hc⟩
    · exact .inr ⟨_, .typeNotText htype htext⟩
  · exact .inr ⟨_, .notMap hmap⟩

/-- The reader of handlers follows their shape. -/
theorem follows_ofValue : Follows ofValue Reads Defect :=
  ⟨fun _ _ => ofValue_of_reads, fun _ _ => ofValue_of_defect, reads_or_defect⟩

end TypedConfig

/-! ### Routes -/

/-- The fields that are looked for before a field. -/
def RouteField.before : RouteField → List RouteField
  | method => []
  | path => [method]
  | handler => [method, path]

namespace RouteConfig

/-- The data of a route has a text as method, a text as path, and a handler. -/
inductive Reads : Value → RouteConfig → Prop where
  | fields {entries : Entries} {r : RouteConfig} {h : Value}
      (method : HasField "method" entries (.text r.method))
      (path : HasField "path" entries (.text r.path)) (handler : HasField "handler" entries h)
      (reads : TypedConfig.Reads h r.handler) : Reads (.map entries) r

/-- The first thing that is wrong with the data of a route: all fields must be there before the
type of any of them counts. -/
inductive Defect : Value → ConfigError → Prop where
  | notMap {v : Value} (h : ¬v.IsMap) : Defect v (.routeNotMap v.typeName)
  | missing {entries : Entries} (f : RouteField) (lacks : LacksField f.name entries)
      (earlier : ∀ g ∈ f.before, ∃ v, HasField g.name entries v) :
      Defect (.map entries) (.missingField f)
  | methodNotText {entries : Entries} {m p h : Value} (method : HasField "method" entries m)
      (path : HasField "path" entries p) (handler : HasField "handler" entries h)
      (notText : ¬m.IsText) : Defect (.map entries) (.methodNotText m.typeName)
  | pathNotText {entries : Entries} {method : String} {p h : Value}
      (method : HasField "method" entries (.text method)) (path : HasField "path" entries p)
      (handler : HasField "handler" entries h) (notText : ¬p.IsText) :
      Defect (.map entries) (.pathNotText p.typeName)
  | handler {entries : Entries} {method path : String} {h : Value} {e : ConfigError}
      (method : HasField "method" entries (.text method))
      (path : HasField "path" entries (.text path)) (handler : HasField "handler" entries h)
      (defect : TypedConfig.Defect h e) : Defect (.map entries) e

lemma ofValue_of_reads {v : Value} {r : RouteConfig} (hreads : Reads v r) :
    ofValue v = .ok r := by
  cases hreads with
  | fields method path handler reads =>
    simp only [ofValue, field?_of_hasField method, field?_of_hasField path,
      field?_of_hasField handler, TypedConfig.ofValue_of_reads reads]

/-- Without a field the first missing one is reported. -/
lemma ofValue_of_missing {entries : Entries} (f : RouteField) (lacks : LacksField f.name entries)
    (earlier : ∀ g ∈ f.before, ∃ v, HasField g.name entries v) :
    ofValue (.map entries) = .error (.missingField f) := by
  have hlacks := field?_of_lacksField lacks
  have hearlier : ∀ g ∈ f.before, ∃ v, field? g.name entries = some v := fun g hg =>
    (earlier g hg).imp fun v hv => field?_of_hasField hv
  cases f with
  | method =>
    have hmethod : field? "method" entries = none := hlacks
    simp only [ofValue, hmethod]
  | path =>
    obtain ⟨m, hm⟩ := hearlier .method (by simp [RouteField.before])
    have hmethod : field? "method" entries = some m := hm
    have hpath : field? "path" entries = none := hlacks
    simp only [ofValue, hmethod, hpath]
  | handler =>
    obtain ⟨m, hm⟩ := hearlier .method (by simp [RouteField.before])
    obtain ⟨p, hp⟩ := hearlier .path (by simp [RouteField.before])
    have hmethod : field? "method" entries = some m := hm
    have hpath : field? "path" entries = some p := hp
    have hhandler : field? "handler" entries = none := hlacks
    simp only [ofValue, hmethod, hpath, hhandler]

lemma ofValue_of_defect {v : Value} {e : ConfigError} (hdefect : Defect v e) :
    ofValue v = .error e := by
  cases hdefect with
  | notMap h =>
    cases v with
    | map entries => exact absurd ⟨entries, rfl⟩ h
    | _ => rfl
  | missing f lacks earlier => exact ofValue_of_missing f lacks earlier
  | @methodNotText _ m _ _ method path handler notText =>
    rw [ofValue, field?_of_hasField method, field?_of_hasField path, field?_of_hasField handler]
    cases m with
    | text s => exact absurd ⟨s, rfl⟩ notText
    | _ => simp only
  | @pathNotText _ _ p _ method path handler notText =>
    rw [ofValue, field?_of_hasField method, field?_of_hasField path, field?_of_hasField handler]
    cases p with
    | text s => exact absurd ⟨s, rfl⟩ notText
    | _ => rfl
  | handler method path handler defect =>
    simp only [ofValue, field?_of_hasField method, field?_of_hasField path,
      field?_of_hasField handler, TypedConfig.ofValue_of_defect defect]

/-- Data is the data of a route, or something is wrong with it. -/
lemma reads_or_defect (v : Value) : (∃ r, Reads v r) ∨ ∃ e, Defect v e := by
  by_cases hmap : v.IsMap
  · obtain ⟨entries, rfl⟩ := hmap
    rcases lacksField_or_hasField "method" entries with hmethod | ⟨m, hmethod⟩
    · exact .inr ⟨_, .missing .method hmethod (by simp [RouteField.before])⟩
    rcases lacksField_or_hasField "path" entries with hpath | ⟨p, hpath⟩
    · refine .inr ⟨_, .missing .path hpath ?_⟩
      simpa [RouteField.before] using ⟨m, hmethod⟩
    rcases lacksField_or_hasField "handler" entries with hhandler | ⟨h, hhandler⟩
    · refine .inr ⟨_, .missing .handler hhandler ?_⟩
      simpa [RouteField.before] using And.intro ⟨m, hmethod⟩ ⟨p, hpath⟩
    by_cases hm : m.IsText
    · obtain ⟨method, rfl⟩ := hm
      by_cases hp : p.IsText
      · obtain ⟨path, rfl⟩ := hp
        rcases TypedConfig.reads_or_defect h with ⟨handler, hreads⟩ | ⟨e, hdefect⟩
        · exact .inl ⟨⟨method, path, handler⟩, .fields hmethod hpath hhandler hreads⟩
        · exact .inr ⟨_, .handler hmethod hpath hhandler hdefect⟩
      · exact .inr ⟨_, .pathNotText hmethod hpath hhandler hp⟩
    · exact .inr ⟨_, .methodNotText hmethod hpath hhandler hm⟩
  · exact .inr ⟨_, .notMap hmap⟩

/-- The reader of routes follows their shape. -/
theorem follows_ofValue : Follows ofValue Reads Defect :=
  ⟨fun _ _ => ofValue_of_reads, fun _ _ => ofValue_of_defect, reads_or_defect⟩

end RouteConfig

/-! ### Configurations -/

namespace RouteTableConfig

/-- The data of a configuration has a list of routes, which are read in order. -/
inductive Reads : Value → RouteTableConfig → Prop where
  | routes {entries : Entries} {vs : List Value} {c : RouteTableConfig}
      (routes : HasField "routes" entries (.list vs))
      (each : List.Forall₂ RouteConfig.Reads vs c.routes) : Reads (.map entries) c

/-- The first thing that is wrong with the data of a configuration.  Routes that are `null` count as
missing, and of several routes the leftmost with a defect counts. -/
inductive Defect : Value → ConfigError → Prop where
  | notMap {v : Value} (h : ¬v.IsMap) : Defect v (.notMap v.typeName)
  | missing {entries : Entries}
      (routes : LacksField "routes" entries ∨ HasField "routes" entries .null) :
      Defect (.map entries) .missingRoutes
  | notList {entries : Entries} {v : Value} (routes : HasField "routes" entries v)
      (notNull : v ≠ .null) (h : ¬v.IsList) : Defect (.map entries) (.routesNotList v.typeName)
  | route {entries : Entries} {vs : List Value} {e : ConfigError}
      (routes : HasField "routes" entries (.list vs))
      (leftmost : Leftmost (fun v => ∃ r, RouteConfig.Reads v r) RouteConfig.Defect vs e) :
      Defect (.map entries) e

/-- Routes are read one by one. -/
lemma routesOf_eq_mapM (vs : List Value) : routesOf vs = vs.mapM RouteConfig.ofValue := by
  induction vs with
  | nil => rfl
  | cons v vs ih =>
    rw [routesOf, ih]
    cases hv : RouteConfig.ofValue v with
    | error e => exact (mapM_cons_of_error hv vs).symm
    | ok r =>
      rw [mapM_cons_of_ok hv]
      cases vs.mapM RouteConfig.ofValue <;> rfl

/-- The reader of a list of routes follows their shapes. -/
theorem follows_routesOf : Follows routesOf (List.Forall₂ RouteConfig.Reads)
    (Leftmost (fun v => ∃ r, RouteConfig.Reads v r) RouteConfig.Defect) := by
  rw [funext routesOf_eq_mapM]
  exact RouteConfig.follows_ofValue.mapM

lemma ofValue_of_reads {v : Value} {c : RouteTableConfig} (hreads : Reads v c) :
    ofValue v = .ok c := by
  cases hreads with
  | routes routes each =>
    simp only [ofValue, field?_of_hasField routes, follows_routesOf.reads _ _ each]

lemma ofValue_of_defect {v : Value} {e : ConfigError} (hdefect : Defect v e) :
    ofValue v = .error e := by
  cases hdefect with
  | notMap h =>
    cases v with
    | map entries => exact absurd ⟨entries, rfl⟩ h
    | _ => rfl
  | missing routes =>
    rcases routes with hlacks | hnull
    · simp only [ofValue, field?_of_lacksField hlacks]
    · simp only [ofValue, field?_of_hasField hnull]
  | @notList _ v routes notNull h =>
    rw [ofValue, field?_of_hasField routes]
    cases v with
    | null => exact absurd rfl notNull
    | list vs => exact absurd ⟨vs, rfl⟩ h
    | _ => rfl
  | route routes leftmost =>
    simp only [ofValue, field?_of_hasField routes, follows_routesOf.defect _ _ leftmost]

/-- Data is the data of a configuration, or something is wrong with it. -/
lemma reads_or_defect (v : Value) : (∃ c, Reads v c) ∨ ∃ e, Defect v e := by
  by_cases hmap : v.IsMap
  · obtain ⟨entries, rfl⟩ := hmap
    rcases lacksField_or_hasField "routes" entries with hlacks | ⟨r, hroutes⟩
    · exact .inr ⟨_, .missing (.inl hlacks)⟩
    by_cases hnull : r = .null
    · exact .inr ⟨_, .missing (.inr (hnull ▸ hroutes))⟩
    by_cases hlist : r.IsList
    · obtain ⟨vs, rfl⟩ := hlist
      rcases follows_routesOf.total vs with ⟨rs, hrs⟩ | ⟨e, hleft⟩
      · exact .inl ⟨⟨rs⟩, .routes hroutes hrs⟩
      · exact .inr ⟨_, .route hroutes hleft⟩
    · exact .inr ⟨_, .notList hroutes hnull hlist⟩
  · exact .inr ⟨_, .notMap hmap⟩

/-- The reader of configurations follows their shape. -/
theorem follows_ofValue : Follows ofValue Reads Defect :=
  ⟨fun _ _ => ofValue_of_reads, fun _ _ => ofValue_of_defect, reads_or_defect⟩

end RouteTableConfig

/-! ### Configurations as data -/

/-- The first entry of a map is a field of it. -/
lemma Value.hasField_cons_self (name : String) (v : Value) (es : Entries) :
    HasField name ((.text name, v) :: es) v :=
  ⟨[], es, rfl, by simp⟩

/-- An entry at another text key does not matter for a field. -/
lemma Value.HasField.cons {name other : String} {es : Entries} {v : Value}
    (h : HasField name es v) (hne : other ≠ name) (w : Value) :
    HasField name ((.text other, w) :: es) v := by
  obtain ⟨before, after, rfl, hbefore⟩ := h
  refine ⟨(.text other, w) :: before, after, rfl, List.forall_mem_cons.mpr ⟨?_, hbefore⟩⟩
  simpa using hne

lemma TypedConfig.reads_toValue (h : TypedConfig) : Reads h.toValue h :=
  .full (hasField_cons_self _ _ _) ((hasField_cons_self _ _ _).cons (by decide) _)

lemma RouteConfig.reads_toValue (r : RouteConfig) : Reads r.toValue r :=
  .fields (hasField_cons_self _ _ _) ((hasField_cons_self _ _ _).cons (by decide) _)
    (((hasField_cons_self _ _ _).cons (by decide) _).cons (by decide) _) r.handler.reads_toValue

namespace RouteTableConfig

lemma reads_toValue (c : RouteTableConfig) : Reads c.toValue c := by
  refine .routes (hasField_cons_self _ _ _) ?_
  rw [List.forall₂_map_left_iff, List.forall₂_same]
  exact fun r _ => r.reads_toValue

/-- **Reading follows the shape of configurations.**  Data is read exactly when it has the shape of
a configuration, and then as the configuration whose shape it has.  Otherwise the first defect is
reported.  The data of a configuration is read as that configuration. -/
theorem ofValue_follows_shape :
    (∀ v c, ofValue v = .ok c ↔ Reads v c) ∧ (∀ v e, ofValue v = .error e ↔ Defect v e) ∧
      ∀ c : RouteTableConfig, ofValue c.toValue = .ok c := by
  refine ⟨fun v c => ?_, fun v e => ?_, fun c => ?_⟩
  · exact follows_ofValue.eq_ok_iff
  · exact follows_ofValue.eq_error_iff
  · exact follows_ofValue.reads _ _ c.reads_toValue

end RouteTableConfig

end PathRouter
