import Mathlib.Logic.Equiv.Fin.Rotate
import PathRouter.Proofs.Pattern.Overlapping
import PathRouter.Proofs.Table.FirstMatch
import PathRouter.Proofs.Table.Registration

/-!
# Rearranged tables

The first match decides, so the order of the routes of a table matters, but only for routes that
some request could go to either way.  A table may be rearranged as long as such routes keep their
order (`RouteTable.answers_of_rearranged`): all requests get the same answers, except that a route
may stand at another place.

What a table answers apart from places is the content of a hit, `Hit.content`.  It depends only on
the routes of the method that is asked for (`RouteTable.content_firstHit?_filter`), and it is the
same in rearranged tables: if a route matches first in one of them, then every route that comes
before it in the other and matches too would have changed its order
(`RouteTable.find?_of_rearranges`).
-/

namespace PathRouter

variable {H : Type}

/-- A hit without the place of its route in the table. -/
def Hit.content (hit : Hit H) : Route H × Params := (hit.route, hit.params)

/-- Some request is matched by both routes. -/
def Route.Conflicts (r s : Route H) : Prop :=
  r.method = s.method ∧ ∃ path, r.pattern.accepts path = true ∧ s.pattern.accepts path = true

/-- Some request is matched by the routes that both entries become. -/
def RouteEntry.Conflicts (e f : RouteEntry H) : Prop :=
  e.method = f.method ∧ ∃ p q path, Pattern.compile e.pattern = .ok p ∧
    Pattern.compile f.pattern = .ok q ∧ p.accepts path = true ∧ q.accepts path = true

/-- The bijection `σ` between the places of two lists takes every element to itself, and the elements
that conflict stay in their order. -/
structure Rearranges {α : Type} (conflicts : α → α → Prop) (xs ys : List α)
    (σ : Fin xs.length ≃ Fin ys.length) : Prop where
  same : ∀ i, ys.get (σ i) = xs.get i
  order : ∀ i j, i < j → conflicts (xs.get i) (xs.get j) → σ i < σ j

/-- Every element comes from a place in the first list. -/
lemma Rearranges.get_symm {α : Type} {conflicts : α → α → Prop} {xs ys : List α}
    {σ : Fin xs.length ≃ Fin ys.length} (h : Rearranges conflicts xs ys σ) (j : Fin ys.length) :
    ys.get j = xs.get (σ.symm j) := by
  rw [← h.same, Equiv.apply_symm_apply]

/-- A rearrangement can be undone. -/
lemma Rearranges.symm {α : Type} {conflicts : α → α → Prop}
    (hsymm : ∀ a b, conflicts a b → conflicts b a) {xs ys : List α}
    {σ : Fin xs.length ≃ Fin ys.length} (h : Rearranges conflicts xs ys σ) :
    Rearranges conflicts ys xs σ.symm where
  same i := (h.get_symm i).symm
  order i j hij hconflict := by
    rw [h.get_symm i, h.get_symm j] at hconflict
    by_contra hnot
    rcases lt_or_eq_of_le (not_lt.mp hnot) with hlt | heq
    · have hji := h.order _ _ hlt (hsymm _ _ hconflict)
      rw [Equiv.apply_symm_apply, Equiv.apply_symm_apply] at hji
      exact absurd hij (lt_asymm hji)
    · rw [σ.symm.injective heq] at hij
      exact absurd hij (lt_irrefl i)

namespace Route

/-- Routes that match one request conflict. -/
lemma conflicts_of_match? {r s : Route H} {method path : String} {ps qs : Params}
    (hr : r.match? method path = some ps) (hs : s.match? method path = some qs) :
    r.Conflicts s := by
  obtain ⟨hmethod, hmatch⟩ := match?_eq_some_iff.mp hr
  obtain ⟨hmethod', hmatch'⟩ := match?_eq_some_iff.mp hs
  refine ⟨hmethod.trans hmethod'.symm, path, ?_, ?_⟩
  · rw [Pattern.accepts, hmatch]
    rfl
  · rw [Pattern.accepts, hmatch']
    rfl

lemma Conflicts.symm {r s : Route H} (h : r.Conflicts s) : s.Conflicts r := by
  obtain ⟨hmethod, path, hr, hs⟩ := h
  exact ⟨hmethod.symm, path, hs, hr⟩

end Route

namespace RouteTable

/-! ### Answers without places -/

/-- The content of the first match does not depend on where counting begins. -/
lemma content_firstHit? (method path : String) (i k : Nat) (rs : List (Route H)) :
    (firstHit? method path i rs).map Hit.content =
      (firstHit? method path k rs).map Hit.content := by
  induction rs generalizing i k with
  | nil => rfl
  | cons r rs ih =>
    rw [firstHit?, firstHit?]
    cases r.match? method path with
    | none => exact ih (i + 1) (k + 1)
    | some ps => rfl

/-- Routes of other methods do not count. -/
theorem content_firstHit?_filter (method path : String) (i : Nat) (rs : List (Route H)) :
    (firstHit? method path i (rs.filter fun r => r.method = method)).map Hit.content =
      (firstHit? method path i rs).map Hit.content := by
  induction rs generalizing i with
  | nil => rfl
  | cons r rs ih =>
    by_cases h : r.method = method
    · rw [List.filter_cons_of_pos (by simpa using h), firstHit?, firstHit?]
      cases r.match? method path with
      | none => exact ih (i + 1)
      | some ps => rfl
    · have hnone : r.match? method path = none :=
        Route.match?_eq_none_iff.mpr fun hmethod => absurd hmethod h
      rw [List.filter_cons_of_neg (by simpa using h), ih, firstHit?, hnone]
      exact content_firstHit? method path i (i + 1) rs

/-- The content of an answer decides what is dispatched. -/
lemma dispatch_of_content {t u : RouteTable H} {method path : Value}
    (h : (t.lookup? method path).map Hit.content = (u.lookup? method path).map Hit.content)
    {α : Type} (invoke : H → Params → α) (missed : α) :
    t.dispatch invoke missed method path = u.dispatch invoke missed method path := by
  have hdispatch : ∀ v : RouteTable H, v.dispatch invoke missed method path =
      ((v.lookup? method path).map Hit.content).elim missed fun c => invoke c.1.handler c.2 := by
    intro v
    rw [dispatch]
    cases v.lookup? method path <;> rfl
  rw [hdispatch, hdispatch, h]

/-- Tables that answer texts alike answer all data alike. -/
lemma content_lookup? {t u : RouteTable H}
    (h : ∀ method path, (t.find? method path).map Hit.content =
      (u.find? method path).map Hit.content) (method path : Value) :
    (t.lookup? method path).map Hit.content = (u.lookup? method path).map Hit.content := by
  unfold lookup?
  split
  · exact h _ _
  · rfl

/-! ### Rearranged routes -/

/-- A first match stays one: a route that matches too and now comes before it would have changed
its order. -/
lemma find?_of_rearranges {t u : RouteTable H}
    {σ : Fin t.routes.length ≃ Fin u.routes.length}
    (h : Rearranges Route.Conflicts t.routes u.routes σ) {method path : String} {hit : Hit H}
    (hit_first : t.find? method path = some hit) :
    (u.find? method path).map Hit.content = some hit.content := by
  obtain ⟨hroute, hmatch, hearlier⟩ := find?_eq_some_iff.mp hit_first
  obtain ⟨hi, hroute⟩ := List.getElem?_eq_some_iff.mp hroute
  let i : Fin t.routes.length := ⟨hit.index, hi⟩
  have hplace : u.routes[(σ i).val]? = some hit.route := by
    rw [List.getElem?_eq_getElem (σ i).isLt, Option.some_inj]
    exact (h.same i).trans hroute
  have hnone : ∀ k s, k < (σ i).val → u.routes[k]? = some s → s.match? method path = none := by
    intro k s hk hs
    obtain ⟨hku, rfl⟩ := List.getElem?_eq_some_iff.mp hs
    let j : Fin t.routes.length := σ.symm ⟨k, hku⟩
    have hj : σ j = ⟨k, hku⟩ := σ.apply_symm_apply _
    have hsame : u.routes[k] = t.routes.get j := h.get_symm ⟨k, hku⟩
    rcases lt_trichotomy j i with hlt | heq | hgt
    · exact hearlier j _ hlt (hsame ▸ List.getElem?_eq_getElem j.isLt)
    · rw [← heq, hj] at hk
      exact absurd hk (lt_irrefl k)
    · rw [Option.eq_none_iff_forall_ne_some]
      intro qs hqs
      have hconflict : Route.Conflicts (t.routes.get i) (t.routes.get j) :=
        Route.conflicts_of_match? (hroute ▸ hmatch) (hsame ▸ hqs)
      have hmoved := h.order i j hgt hconflict
      rw [hj] at hmoved
      exact absurd hk (Nat.lt_asymm hmoved)
  have hfound : u.find? method path = some ⟨(σ i).val, hit.route, hit.params⟩ :=
    find?_eq_some_iff.mpr ⟨hplace, hmatch, hnone⟩
  rw [hfound]
  rfl

/-- Rearranged tables answer alike. -/
theorem content_find?_of_rearranges {t u : RouteTable H}
    {σ : Fin t.routes.length ≃ Fin u.routes.length}
    (h : Rearranges Route.Conflicts t.routes u.routes σ) (method path : String) :
    (t.find? method path).map Hit.content = (u.find? method path).map Hit.content := by
  cases ht : t.find? method path with
  | some hit => exact (find?_of_rearranges h ht).symm
  | none =>
    cases hu : u.find? method path with
    | none => rfl
    | some hit =>
      have hback := find?_of_rearranges (h.symm fun _ _ => Route.Conflicts.symm) hu
      rw [ht] at hback
      simp at hback

end RouteTable

/-! ### Rearranged entries -/

/-- Entries conflict when the routes that they become do. -/
lemma RouteEntry.conflicts_of_compiles {e f : RouteEntry H} {r s : Route H} (he : e.Compiles r)
    (hf : f.Compiles s) (h : r.Conflicts s) : e.Conflicts f := by
  obtain ⟨hmethod, path, hr, hs⟩ := h
  exact ⟨he.1.symm.trans (hmethod.trans hf.1), r.pattern, s.pattern, path, he.2.1, hf.2.1, hr, hs⟩

/-- Rearranged entries become rearranged routes. -/
lemma Rearranges.routes {es fs : List (RouteEntry H)} {σ : Fin es.length ≃ Fin fs.length}
    (h : Rearranges RouteEntry.Conflicts es fs σ) {rs ss : List (Route H)}
    (hes : List.Forall₂ RouteEntry.Compiles es rs)
    (hfs : List.Forall₂ RouteEntry.Compiles fs ss) :
    Rearranges Route.Conflicts rs ss
      ((finCongr hes.length_eq).symm.trans (σ.trans (finCongr hfs.length_eq))) where
  same i := by
    let k : Fin es.length := (finCongr hes.length_eq).symm i
    have hr : (es.get k).Compiles (rs.get i) := hes.get k.isLt i.isLt
    have hs : (fs.get (σ k)).Compiles (ss.get (finCongr hfs.length_eq (σ k))) :=
      hfs.get (σ k).isLt (hfs.length_eq ▸ (σ k).isLt)
    rw [h.same k] at hs
    exact RouteEntry.rightUnique_compiles hs hr
  order i j hij hconflict := by
    let k : Fin es.length := (finCongr hes.length_eq).symm i
    let l : Fin es.length := (finCongr hes.length_eq).symm j
    have hi : (es.get k).Compiles (rs.get i) := hes.get k.isLt i.isLt
    have hj : (es.get l).Compiles (rs.get j) := hes.get l.isLt j.isLt
    exact h.order k l hij (RouteEntry.conflicts_of_compiles hi hj hconflict)

/-- Registering keeps the entries of a method together. -/
lemma RouteEntry.filter_compiles {es : List (RouteEntry H)} {rs : List (Route H)}
    (h : List.Forall₂ RouteEntry.Compiles es rs) (method : String) :
    List.Forall₂ RouteEntry.Compiles (es.filter fun e => e.method = method)
      (rs.filter fun r => r.method = method) := by
  induction h with
  | nil => exact .nil
  | @cons e r es rs hr _ ih =>
    by_cases hmethod : e.method = method
    · rw [List.filter_cons_of_pos (by simpa using hmethod),
        List.filter_cons_of_pos (by simpa using hr.1.trans hmethod)]
      exact .cons hr ih
    · rw [List.filter_cons_of_neg (by simpa using hmethod),
        List.filter_cons_of_neg (by simpa using fun h => hmethod (hr.1.symm.trans h))]
      exact ih

namespace RouteTable

/-- Tables whose entries of a method agree answer this method alike. -/
lemma content_lookup?_of_filter {es fs : List (RouteEntry H)} {t u : RouteTable H}
    (ht : (∅ : RouteTable H).registerAll es = .ok t)
    (hu : (∅ : RouteTable H).registerAll fs = .ok u) {method : String}
    (h : es.filter (fun e => e.method = method) = fs.filter fun e => e.method = method)
    (path : Value) :
    (t.lookup? (.text method) path).map Hit.content =
      (u.lookup? (.text method) path).map Hit.content := by
  have hroutes := RouteEntry.filter_compiles (compiles_of_registerAll ht) method
  have hroutes' := RouteEntry.filter_compiles (compiles_of_registerAll hu) method
  rw [h] at hroutes
  have hsame := List.right_unique_forall₂' RouteEntry.rightUnique_compiles hroutes hroutes'
  unfold lookup?
  split
  · rename_i m path hm
    obtain rfl : method = m := Value.text.inj hm
    rw [find?, find?, ← content_firstHit?_filter, hsame, content_firstHit?_filter]
  · rfl

/-- **Rearranged tables.**  Entries can be registered in another order as long as entries that some
request matches both keep theirs: the answers have the same contents, and the same is dispatched.
That two patterns have a common path can be seen place by place.  Entries of other methods do not
change what a method is answered. -/
theorem answers_of_rearranged :
    (∀ (es fs : List (RouteEntry H)) (σ : Fin es.length ≃ Fin fs.length) (t : RouteTable H),
      Rearranges RouteEntry.Conflicts es fs σ → (∅ : RouteTable H).registerAll es = .ok t →
      ∃ u, (∅ : RouteTable H).registerAll fs = .ok u ∧ ∀ method path : Value,
        (t.lookup? method path).map Hit.content = (u.lookup? method path).map Hit.content ∧
        ∀ (α : Type) (invoke : H → Params → α) (missed : α),
          t.dispatch invoke missed method path = u.dispatch invoke missed method path) ∧
    (∀ source source' p q, Pattern.compile source = .ok p → Pattern.compile source' = .ok q →
      ((∃ path, p.accepts path = true ∧ q.accepts path = true) ↔
        p.segments.length = q.segments.length ∧
          ∀ (i : Nat) (s s' : Segment), p.segments[i]? = some s → q.segments[i]? = some s' →
            s.overlaps s' = true)) ∧
    ∀ (es fs : List (RouteEntry H)) (t u : RouteTable H) (method : String),
      (∅ : RouteTable H).registerAll es = .ok t → (∅ : RouteTable H).registerAll fs = .ok u →
      (es.filter fun e => e.method = method) = (fs.filter fun e => e.method = method) →
      ∀ path : Value,
        (t.lookup? (.text method) path).map Hit.content =
          (u.lookup? (.text method) path).map Hit.content ∧
        ∀ (α : Type) (invoke : H → Params → α) (missed : α),
          t.dispatch invoke missed (.text method) path =
            u.dispatch invoke missed (.text method) path := by
  refine ⟨?_, ?_, ?_⟩
  · intro es fs σ t hσ ht
    have hopen : (∅ : RouteTable H).frozen = false := rfl
    have hfs : ∀ f ∈ fs, ∃ p, Pattern.compile f.pattern = .ok p := by
      intro f hf
      obtain ⟨j, rfl⟩ := List.mem_iff_get.mp hf
      rw [hσ.get_symm j]
      exact (exists_registerAll_iff hopen).mp ⟨t, ht⟩ _ (List.get_mem es _)
    obtain ⟨u, hu⟩ := (exists_registerAll_iff hopen).mpr hfs
    have hroutes := hσ.routes (compiles_of_registerAll ht) (compiles_of_registerAll hu)
    refine ⟨u, hu, fun method path => ?_⟩
    have hcontent := content_lookup? (content_find?_of_rearranges hroutes) method path
    exact ⟨hcontent, fun α invoke missed => dispatch_of_content hcontent invoke missed⟩
  · intro source source' p q hp _
    rw [Pattern.exists_common_path_iff (Pattern.isSlashFree_of_compile hp), Pattern.overlaps_iff]
  · intro es fs t u method ht hu hfilter path
    have hcontent := content_lookup?_of_filter ht hu hfilter path
    exact ⟨hcontent, fun α invoke missed => dispatch_of_content hcontent invoke missed⟩

/-- The page about the site may be registered before the pages of users, which must keep their
order, and a route of another method may stand between these. -/
theorem answers_of_rearranged_user :
    let byId : RouteEntry Nat := ⟨"GET", "/user/:id(int)", 0⟩
    let byName : RouteEntry Nat := ⟨"GET", "/user/:name(string)", 1⟩
    let about : RouteEntry Nat := ⟨"GET", "/about", 2⟩
    let save : RouteEntry Nat := ⟨"POST", "/user/:id(int)", 3⟩
    ∃ t u v, (∅ : RouteTable Nat).registerAll [byId, byName, about] = .ok t ∧
      (∅ : RouteTable Nat).registerAll [about, byId, byName] = .ok u ∧
      (∅ : RouteTable Nat).registerAll [byId, save, byName, about] = .ok v ∧
      (∀ path : Value, (t.lookup? (.text "GET") path).map Hit.content =
        (u.lookup? (.text "GET") path).map Hit.content) ∧
      ∀ path : Value, (t.lookup? (.text "GET") path).map Hit.content =
        (v.lookup? (.text "GET") path).map Hit.content := by
  intro byId byName about save
  obtain ⟨hrearranged, hoverlap, hmethods⟩ := answers_of_rearranged (H := Nat)
  have hopen : (∅ : RouteTable Nat).frozen = false := rfl
  have hid : Pattern.compile "/user/:id(int)" =
      .ok ⟨"/user/:id(int)", [.literal "user", .param "id" .int]⟩ := by decide +kernel
  have hname : Pattern.compile "/user/:name(string)" =
      .ok ⟨"/user/:name(string)", [.literal "user", .param "name" .string]⟩ := by decide +kernel
  have habout : Pattern.compile "/about" = .ok ⟨"/about", [.literal "about"]⟩ := by decide +kernel
  have hfirst : ∀ e ∈ [byId, byName, about], ∃ p, Pattern.compile e.pattern = .ok p := by
    simp only [List.forall_mem_cons]
    exact ⟨⟨_, hid⟩, ⟨_, hname⟩, ⟨_, habout⟩, by simp⟩
  have hthird : ∀ e ∈ [byId, save, byName, about], ∃ p, Pattern.compile e.pattern = .ok p := by
    simp only [List.forall_mem_cons]
    exact ⟨⟨_, hid⟩, ⟨_, hid⟩, ⟨_, hname⟩, ⟨_, habout⟩, by simp⟩
  obtain ⟨t, ht⟩ := (exists_registerAll_iff hopen).mpr hfirst
  obtain ⟨v, hv⟩ := (exists_registerAll_iff hopen).mpr hthird
  have hapart : ∀ e : RouteEntry Nat, e = byId ∨ e = byName → ¬e.Conflicts about := by
    rintro e he ⟨-, p, q, path, hp, hq, hpaths⟩
    have hlen := ((hoverlap _ _ p q hp hq).mp ⟨path, hpaths⟩).1
    rw [← Except.ok.inj (habout.symm.trans hq)] at hlen
    rcases he with rfl | rfl
    · rw [← Except.ok.inj (hid.symm.trans hp)] at hlen
      exact absurd hlen (by decide)
    · rw [← Except.ok.inj (hname.symm.trans hp)] at hlen
      exact absurd hlen (by decide)
  let σ : Fin [byId, byName, about].length ≃ Fin [about, byId, byName].length := finRotate 3
  have hsame : ∀ i, [about, byId, byName].get (σ i) = [byId, byName, about].get i := by
    intro i
    have hplace : ∀ k : Fin 3, k = 0 ∨ k = 1 ∨ k = 2 := by decide
    rcases hplace i with rfl | rfl | rfl
    · rfl
    · rfl
    · rfl
  have hplaces : ∀ i j : Fin 3, i < j → (i = 0 ∧ j = 1) ∨ (j = 2 ∧ (i = 0 ∨ i = 1)) := by decide
  have horder : ∀ i j, i < j → RouteEntry.Conflicts ([byId, byName, about].get i)
      ([byId, byName, about].get j) → σ i < σ j := by
    intro i j hij hconflict
    obtain ⟨rfl, rfl⟩ | ⟨rfl, rfl | rfl⟩ := hplaces i j hij
    · exact (by decide : finRotate 3 0 < finRotate 3 1)
    · exact absurd hconflict (hapart byId (.inl rfl))
    · exact absurd hconflict (hapart byName (.inr rfl))
  obtain ⟨u, hu, hanswers⟩ := hrearranged _ _ σ t ⟨hsame, horder⟩ ht
  refine ⟨t, u, v, ht, hu, hv, fun path => (hanswers _ path).1, fun path => ?_⟩
  exact (hmethods _ _ t v "GET" ht hv (by simp [byId, byName, about, save]) path).1

end RouteTable

end PathRouter
