import PathRouter.Proofs.Registry.Failures

/-!
# Registries that load alike

Two registries that have the same factories may hold them in different orders.  Making a handler
looks up one type, and an unknown type is reported with all names sorted; so registries that agree
on the types that a configuration names load it alike (`Registry.Alike`): first one handler, then
one route, all routes (`Registry.loadRoutes_alike`), and the configuration (`Registry.load_alike`).
Registries that agree on all types cannot be told apart (`Registry.indistinguishable_of_get?`).
-/

namespace PathRouter

variable {H : Type}

/-! ### Names in order -/

/-- An ascending list is known from its members. -/
lemma eq_of_pairwise_lt {ts us : List String} (ht : ts.Pairwise (· < ·)) (hu : us.Pairwise (· < ·))
    (hmem : ∀ t, t ∈ ts ↔ t ∈ us) : ts = us := by
  have hnodup : ∀ l : List String, l.Pairwise (· < ·) → l.Nodup := by
    intro l hl
    refine hl.imp ?_
    rintro a b hab rfl
    exact String.lt_irrefl a hab
  have hperm : ts.Perm us :=
    (List.perm_ext_iff_of_nodup (hnodup ts ht) (hnodup us hu)).mpr hmem
  exact hperm.eq_of_pairwise (fun _ _ _ _ hab hba => absurd hba (String.lt_asymm hab)) ht hu

namespace Registry

/-- The names of the handler types are the one ascending list of them. -/
lemma eq_typeUrls_iff {r : Registry H} {ts : List String} :
    ts = r.typeUrls ↔ ts.Pairwise (· < ·) ∧ ∀ t, t ∈ ts ↔ r.contains t = true := by
  constructor
  · rintro rfl
    exact ⟨r.typeUrls_pairwise_lt, fun t => mem_typeUrls_iff⟩
  · rintro ⟨hascending, hmem⟩
    refine eq_of_pairwise_lt hascending r.typeUrls_pairwise_lt fun t => ?_
    rw [hmem, mem_typeUrls_iff]

/-- Registries with the same factories name the same types. -/
lemma typeUrls_eq_of_get? {r r' : Registry H}
    (h : ∀ t, r.factories.get? t = r'.factories.get? t) : r.typeUrls = r'.typeUrls := by
  refine eq_typeUrls_iff.mpr ⟨r.typeUrls_pairwise_lt, fun t => ?_⟩
  rw [mem_typeUrls_iff, contains, contains, OrderedMap.contains, OrderedMap.contains, h]

/-- The handler types are counted by their names. -/
lemma count_eq_length_typeUrls (r : Registry H) : r.count = r.typeUrls.length := by
  rw [typeUrls, sortedTexts, List.length_mergeSort, count, OrderedMap.size, OrderedMap.keys,
    List.length_map]

/-! ### Loading alike -/

/-- What two registries give is the same, or both fail for a handler type that neither knows, and
each names the types that it has. -/
def Alike {α : Type} (r r' : Registry H) (x x' : Except RouterError α) : Prop :=
  x = x' ∨ ∃ typeUrl, x = .error (.unknownType typeUrl r.typeUrls) ∧
    x' = .error (.unknownType typeUrl r'.typeUrls)

variable {r r' : Registry H}

/-- Registries that name the same types give the same. -/
lemma Alike.eq {α : Type} {x x' : Except RouterError α} (h : r.Alike r' x x')
    (htypes : r.typeUrls = r'.typeUrls) : x = x' := by
  rcases h with hsame | ⟨typeUrl, hx, hx'⟩
  · exact hsame
  · rw [hx, hx', htypes]

/-- A handler is made alike by registries that agree on its type. -/
lemma makeHandler_alike {c : TypedConfig}
    (h : r.factories.get? c.typeUrl = r'.factories.get? c.typeUrl) :
    r.Alike r' (r.makeHandler c) (r'.makeHandler c) := by
  rw [makeHandler, makeHandler, h]
  cases r'.factories.get? c.typeUrl with
  | none => exact .inr ⟨c.typeUrl, rfl, rfl⟩
  | some factory => exact .inl rfl

/-- A route is loaded alike by registries that agree on its handler type. -/
lemma loadRoute_alike {t : RouteTable H} {c : RouteConfig}
    (h : r.factories.get? c.handler.typeUrl = r'.factories.get? c.handler.typeUrl) :
    r.Alike r' (r.loadRoute t c) (r'.loadRoute t c) := by
  rw [loadRoute, loadRoute]
  split_ifs with hlong
  · exact .inl rfl
  · rcases makeHandler_alike h with hsame | ⟨typeUrl, hmade, hmade'⟩
    · rw [hsame]
      exact .inl rfl
    · rw [hmade, hmade']
      exact .inr ⟨typeUrl, rfl, rfl⟩

/-- Routes are loaded alike, with the same records, by registries that agree on their handler
types. -/
theorem loadRoutes_alike {t : RouteTable H} {cs : List RouteConfig}
    (h : ∀ c ∈ cs, r.factories.get? c.handler.typeUrl = r'.factories.get? c.handler.typeUrl) :
    r.Alike r' (r.loadRoutes t cs).1 (r'.loadRoutes t cs).1 ∧
      (r.loadRoutes t cs).2 = (r'.loadRoutes t cs).2 := by
  induction cs generalizing t with
  | nil => exact ⟨.inl rfl, rfl⟩
  | cons c cs ih =>
    rw [List.forall_mem_cons] at h
    rw [loadRoutes, loadRoutes]
    rcases loadRoute_alike h.1 with hsame | ⟨typeUrl, hfirst, hfirst'⟩
    · rw [hsame]
      cases r'.loadRoute t c with
      | error e => exact ⟨.inl rfl, rfl⟩
      | ok u =>
        obtain ⟨hresult, hlog⟩ := ih h.2 (t := u)
        exact ⟨hresult, congrArg (u.lastRegistered ++ ·) hlog⟩
    · rw [hfirst, hfirst']
      exact ⟨.inr ⟨typeUrl, rfl, rfl⟩, rfl⟩

/-- A configuration is loaded alike, with the same records, by registries that agree on the handler
types that it names. -/
theorem load_alike {c : RouteTableConfig} (h : ∀ rc ∈ c.routes,
    r.factories.get? rc.handler.typeUrl = r'.factories.get? rc.handler.typeUrl) :
    r.Alike r' (r.load c).1 (r'.load c).1 ∧ (r.load c).2 = (r'.load c).2 := by
  rw [load, load]
  split_ifs with hmany
  · exact ⟨.inl rfl, rfl⟩
  · have hroutes := loadRoutes_alike h (t := ∅)
    revert hroutes
    cases r.loadRoutes ∅ c.routes with
    | mk x log =>
      cases r'.loadRoutes ∅ c.routes with
      | mk x' log' =>
        rintro ⟨hsame | ⟨typeUrl, hx, hx'⟩, hlog⟩
        · obtain rfl : x = x' := hsame
          obtain rfl : log = log' := hlog
          exact ⟨.inl rfl, rfl⟩
        · obtain rfl : x = _ := hx
          obtain rfl : x' = _ := hx'
          exact ⟨.inr ⟨typeUrl, rfl, rfl⟩, hlog⟩

/-- Nothing that is asked of the two registries tells them apart. -/
structure Indistinguishable (r r' : Registry H) : Prop where
  count : r.count = r'.count
  contains : ∀ typeUrl, r.contains typeUrl = r'.contains typeUrl
  typeUrls : r.typeUrls = r'.typeUrls
  load : ∀ c, r.load c = r'.load c

/-- Registries with the same factories are indistinguishable. -/
theorem indistinguishable_of_get? (h : ∀ t, r.factories.get? t = r'.factories.get? t) :
    r.Indistinguishable r' where
  count := by
    rw [count_eq_length_typeUrls, count_eq_length_typeUrls, typeUrls_eq_of_get? h]
  contains typeUrl := congrArg Option.isSome (h typeUrl)
  typeUrls := typeUrls_eq_of_get? h
  load c := by
    obtain ⟨hresult, hlog⟩ := load_alike fun rc (_ : rc ∈ c.routes) => h rc.handler.typeUrl
    exact Prod.ext (hresult.eq (typeUrls_eq_of_get? h)) hlog

end Registry

end PathRouter
