import Mathlib.Data.List.Nodup
import Mathlib.Data.List.Perm.Basic
import Mathlib.Logic.Relation
import RelationQuery.Proofs.Aggregation.Walk

/-!
Outlines partition their chain. The outline of a to-many root has one level for the root and one
for every to-many edge of its chain, each nested in the level of its nearest to-many edge; every
other edge of the chain is joined to one level, that of its own nearest to-many edge.
-/

namespace RelationQuery

namespace Outline

mutual

/-- All levels of an outline, each before those nested in it. -/
def flatten : Outline → List Outline
  | ⟨root, members, nested⟩ => ⟨root, members, nested⟩ :: flattenAll nested

def flattenAll : List Outline → List Outline
  | [] => []
  | o :: rest => o.flatten ++ flattenAll rest

end

lemma flattenAll_eq (os : List Outline) : flattenAll os = os.flatMap flatten := by
  induction os with
  | nil => rfl
  | cons o rest ih => simp [flattenAll, ih]

lemma flatten_eq (o : Outline) : o.flatten = o :: o.nested.flatMap flatten := by
  obtain ⟨root, members, nested⟩ := o
  simp [flatten, flattenAll_eq]

lemma mem_flatten_self (o : Outline) : o ∈ o.flatten := by
  rw [flatten_eq]
  exact List.mem_cons_self

lemma mem_flatten {o l : Outline} : l ∈ o.flatten ↔ l = o ∨ ∃ c ∈ o.nested, l ∈ c.flatten := by
  rw [flatten_eq, List.mem_cons, List.mem_flatMap]

/-- What holds of an outline if it holds of those nested in it holds of all. -/
@[elab_as_elim]
theorem induction {motive : Outline → Prop}
    (outline : ∀ root members nested, (∀ o ∈ nested, motive o) → motive ⟨root, members, nested⟩)
    (o : Outline) : motive o :=
  match o with
  | ⟨root, members, nested⟩ => outline root members nested fun o _ => induction outline o

/-- Levels nested in a level of an outline are levels of the outline. -/
lemma flatten_subset {o l : Outline} (h : l ∈ o.flatten) : l.flatten ⊆ o.flatten := by
  induction o using Outline.induction with
  | outline root members nested ih =>
    rcases mem_flatten.mp h with rfl | ⟨c, hc, hl⟩
    · exact List.Subset.refl _
    · exact fun k hk => mem_flatten.mpr (.inr ⟨c, hc, ih c hc hl hk⟩)

lemma nested_subset {o l c : Outline} (hl : l ∈ o.flatten) (hc : c ∈ l.nested) : c ∈ o.flatten :=
  flatten_subset hl (mem_flatten.mpr (.inr ⟨c, hc, c.mem_flatten_self⟩))

/-- The edges of a level, without those of the levels nested in it. -/
def edges (o : Outline) : List Edge := o.root :: o.members

/-- A level as it is read off the chain of its root. -/
structure IsRead (g : Graph) (o : Outline) : Prop where
  root : g.edge? o.root.id = some o.root
  many : o.root.many = true
  members : o.members = (walk g o.root.id).members
  nested : o.nested.map Outline.root = deeper (walk g o.root.id) (g.chain o.root.id)

variable {g : Graph} (wf : g.WellFormed)
include wf

/-- There is fuel for all levels: each starts further on than the one around it. -/
lemma isRead_build {fuel : Nat} {root : Edge} (hroot : g.edge? root.id = some root)
    (hmany : root.many = true) (hfuel : g.size ≤ fuel + root.id) :
    (build g fuel root).root = root ∧ ∀ l ∈ (build g fuel root).flatten, IsRead g l := by
  induction fuel generalizing root with
  | zero =>
    have := Graph.lt_size_of_edge? hroot
    omega
  | succ fuel ih =>
    have hdeeper : ∀ e ∈ deeper (walk g root.id) (g.chain root.id),
        (build g fuel e).root = e ∧ ∀ l ∈ (build g fuel e).flatten, IsRead g l := by
      intro e he
      obtain ⟨hchain, hemany, -⟩ := (mem_deeper wf hroot hmany).mp he
      have hlt := wf.lt_of_mem_chain hchain
      exact ih (wf.mem_chain.mp hchain).1 hemany (by omega)
    refine ⟨rfl, fun l hl => ?_⟩
    rcases mem_flatten.mp hl with rfl | ⟨c, hc, hlc⟩
    · refine ⟨hroot, hmany, rfl, ?_⟩
      simp only [build, nested_edges wf, List.map_map]
      have hmap : ∀ e ∈ deeper (walk g root.id) (g.chain root.id),
          (Outline.root ∘ build g fuel) e = id e := fun e he => (hdeeper e he).1
      rw [List.map_congr_left hmap, List.map_id]
    · simp only [build, nested_edges wf, List.mem_map] at hc
      obtain ⟨e, he, rfl⟩ := hc
      exact (hdeeper e he).2 l hlc

lemma isRead_ofEdge {r : Nat} {root : Edge} (hr : g.edge? r = some root)
    (hmany : root.many = true) :
    (ofEdge g root).root = root ∧ ∀ l ∈ (ofEdge g root).flatten, IsRead g l := by
  have hid := wf.id hr
  exact isRead_build wf (by rw [hid, hr]) hmany (by omega)

namespace IsRead

variable {o : Outline} {e : Edge}

lemma mem_members (h : IsRead g o) : e ∈ o.members ↔
    e ∈ g.chain o.root.id ∧ e.many = false ∧ g.NearestMany e.id o.root.id := by
  rw [h.members]
  exact Outline.mem_members wf h.root h.many

lemma mem_nested (h : IsRead g o) : e ∈ o.nested.map Outline.root ↔
    e ∈ g.chain o.root.id ∧ e.many = true ∧ g.NearestMany e.id o.root.id := by
  rw [h.nested]
  exact Outline.mem_deeper wf h.root h.many

end IsRead

/-! ### One level for each to-many edge -/

/-- The levels of an outline lie on the way up from each other. -/
lemma nearestMany_closure {o l : Outline} (h : ∀ l ∈ o.flatten, IsRead g l) (hl : l ∈ o.flatten) :
    Relation.ReflTransGen g.NearestMany l.root.id o.root.id := by
  induction o using Outline.induction with
  | outline root members nested ih =>
    rcases mem_flatten.mp hl with rfl | ⟨c, hc, hlc⟩
    · exact .refl
    · have hnear := ((h _ (mem_flatten_self _)).mem_nested wf).mp (List.mem_map_of_mem hc)
      have hup := ih c hc (fun k hk => h k (mem_flatten.mpr (.inr ⟨c, hc, hk⟩))) hlc
      exact hup.tail hnear.2.2

lemma le_of_closure {i j : Nat} (h : Relation.ReflTransGen g.NearestMany i j) : j ≤ i := by
  induction h with
  | refl => exact Nat.le_refl _
  | tail _ h ih =>
    have := wf.lt_of_nearestMany h
    omega

/-- Of two levels nested side by side, neither is on the way up from the other. -/
lemma eq_of_closure {i j n : Nat} (hi : g.NearestMany i n) (hj : g.NearestMany j n)
    (h : Relation.ReflTransGen g.NearestMany i j) : i = j := by
  rcases Relation.ReflTransGen.cases_head h with rfl | ⟨m, hm, hup⟩
  · rfl
  · have hmn := hm.unique hi
    have := le_of_closure wf (hmn ▸ hup)
    have := wf.lt_of_nearestMany hj
    omega

/-- No edge starts two levels. -/
lemma roots_nodup {o : Outline} (h : ∀ l ∈ o.flatten, IsRead g l) :
    (o.flatten.map (·.root.id)).Nodup := by
  induction o using Outline.induction with
  | outline root members nested ih =>
    set o : Outline := ⟨root, members, nested⟩
    have hread := h o (mem_flatten_self o)
    have hsub : ∀ c ∈ nested, ∀ l ∈ c.flatten, IsRead g l :=
      fun c hc l hl => h l (mem_flatten.mpr (.inr ⟨c, hc, hl⟩))
    have hnear : ∀ c ∈ nested, g.NearestMany c.root.id root.id := fun c hc =>
      ((hread.mem_nested wf).mp (List.mem_map_of_mem hc)).2.2
    rw [flatten_eq, List.map_cons, List.map_flatMap, List.nodup_cons, List.nodup_flatMap]
    refine ⟨?_, fun c hc => ih c hc (hsub c hc), ?_⟩
    · -- levels inside start further on
      simp only [List.mem_flatMap, List.mem_map, not_exists, not_and]
      intro c hc l hl hsame
      have := le_of_closure wf (nearestMany_closure wf (hsub c hc) hl)
      have := wf.lt_of_nearestMany (hnear c hc)
      have : l.root.id = root.id := hsame
      omega
    · have hascending : nested.Pairwise fun a b => a.root.id < b.root.id := by
        have := deeper_ascending g root.id
        rw [← hread.nested, List.pairwise_map] at this
        exact this
      refine hascending.imp_of_mem ?_
      intro c c' hc hc' hlt
      simp only [Function.onFun, List.disjoint_left, List.mem_map, not_exists, not_and]
      rintro _ ⟨l, hl, rfl⟩ l' hl' hsame
      -- both levels would lie on the way up from one edge
      have hup := nearestMany_closure wf (hsub c hc) hl
      have hup' := nearestMany_closure wf (hsub c' hc') hl'
      rw [hsame] at hup'
      have hright : Relator.RightUnique g.NearestMany := fun _ _ _ h h' => h.unique h'
      rcases Relation.ReflTransGen.total_of_right_unique hright hup hup' with h | h
      · have := eq_of_closure wf (hnear c hc) (hnear c' hc') h
        omega
      · have := eq_of_closure wf (hnear c' hc') (hnear c hc) h
        omega

section Root

variable {r : Nat} {root : Edge} (hr : g.edge? r = some root) (hmany : root.many = true)
include hr hmany

/-- The root of a level is at or below the root of the outline. -/
lemma above_level {l : Outline} (hl : l ∈ (ofEdge g root).flatten) : g.Above r l.root.id := by
  obtain ⟨hroot, hread⟩ := isRead_ofEdge wf hr hmany
  have hid := wf.id hr
  suffices h : ∀ o : Outline, (∀ l ∈ o.flatten, IsRead g l) → g.Above r o.root.id →
      ∀ l ∈ o.flatten, g.Above r l.root.id from
    h _ hread (by rw [hroot, hid]; exact .refl) l hl
  intro o
  induction o using Outline.induction with
  | outline root members nested ih =>
    intro h habove l hl
    rcases mem_flatten.mp hl with rfl | ⟨c, hc, hlc⟩
    · exact habove
    · have hchain := ((h _ (mem_flatten_self _)).mem_nested wf).mp (List.mem_map_of_mem hc)
      refine ih c hc (fun k hk => h k (mem_flatten.mpr (.inr ⟨c, hc, hk⟩))) ?_ l hlc
      exact habove.trans (wf.mem_chain.mp hchain.1).2.1

/-- For levels of the outline, the chain of the level can be replaced by that of the root. -/
lemma mem_chain_level {l : Outline} (hl : l ∈ (ofEdge g root).flatten) {e : Edge}
    (hnear : g.NearestMany e.id l.root.id) : e ∈ g.chain l.root.id ↔ e ∈ g.chain r := by
  have habove := above_level wf hr hmany hl
  have hlt := wf.lt_of_nearestMany hnear
  have hrl := wf.le_of_above habove
  rw [wf.mem_chain, wf.mem_chain]
  constructor
  · rintro ⟨hedge, hle, -⟩
    exact ⟨hedge, habove.trans hle, by omega⟩
  · rintro ⟨hedge, hre, hne⟩
    obtain ⟨p, hp, -⟩ := hre.prev hne hedge
    exact ⟨hedge, wf.above_of_nearestMany hedge hp hnear, by omega⟩

lemma mem_members_level {l : Outline} (hl : l ∈ (ofEdge g root).flatten) {e : Edge} :
    e ∈ l.members ↔ e ∈ g.chain r ∧ e.many = false ∧ g.NearestMany e.id l.root.id := by
  rw [((isRead_ofEdge wf hr hmany).2 l hl).mem_members wf]
  constructor
  · rintro ⟨hchain, hemany, hnear⟩
    exact ⟨(mem_chain_level wf hr hmany hl hnear).mp hchain, hemany, hnear⟩
  · rintro ⟨hchain, hemany, hnear⟩
    exact ⟨(mem_chain_level wf hr hmany hl hnear).mpr hchain, hemany, hnear⟩

lemma mem_nested_level {l : Outline} (hl : l ∈ (ofEdge g root).flatten) {e : Edge} :
    e ∈ l.nested.map Outline.root ↔
      e ∈ g.chain r ∧ e.many = true ∧ g.NearestMany e.id l.root.id := by
  rw [((isRead_ofEdge wf hr hmany).2 l hl).mem_nested wf]
  constructor
  · rintro ⟨hchain, hemany, hnear⟩
    exact ⟨(mem_chain_level wf hr hmany hl hnear).mp hchain, hemany, hnear⟩
  · rintro ⟨hchain, hemany, hnear⟩
    exact ⟨(mem_chain_level wf hr hmany hl hnear).mpr hchain, hemany, hnear⟩

variable (hhead : root.prev = none)
include hhead

/-- Every to-many edge at or below the root starts a level. -/
lemma exists_level {i : Nat} {e : Edge} (he : g.edge? i = some e) (hemany : e.many = true)
    (habove : g.Above r i) : ∃ l ∈ (ofEdge g root).flatten, l.root.id = i := by
  obtain ⟨hroot, hread⟩ := isRead_ofEdge wf hr hmany
  have hid := wf.id hr
  induction i using Nat.strongRecOn generalizing e with
  | _ i ih =>
    by_cases hne : i = r
    · exact ⟨_, mem_flatten_self _, by rw [hroot, hid, hne]⟩
    · obtain ⟨n, hn, hrn⟩ := wf.exists_nearestMany hr hhead hmany he habove hne
      obtain ⟨f, hf, hfmany⟩ := hn.many
      obtain ⟨l, hl, rfl⟩ := ih n (wf.lt_of_nearestMany hn) hf hfmany hrn
      obtain ⟨p, hp, -⟩ := habove.prev hne he
      have heid := wf.id he
      have hnested : e ∈ l.nested.map Outline.root := by
        rw [(hread l hl).mem_nested wf]
        refine ⟨wf.mem_chain.mpr ⟨by rw [heid, he], ?_, ?_⟩, hemany, heid ▸ hn⟩
        · exact heid ▸ wf.above_of_nearestMany he hp hn
        · exact heid ▸ Nat.ne_of_gt (wf.lt_of_nearestMany hn)
      obtain ⟨c, hc, hce⟩ := List.mem_map.mp hnested
      exact ⟨c, nested_subset hl hc, by rw [hce, heid]⟩

/-- Every edge of the chain belongs to the level of its nearest to-many edge. -/
lemma exists_owner {e : Edge} (he : e ∈ g.chain r) :
    ∃ l ∈ (ofEdge g root).flatten, g.NearestMany e.id l.root.id := by
  obtain ⟨hedge, habove, hne⟩ := wf.mem_chain.mp he
  obtain ⟨n, hn, hrn⟩ := wf.exists_nearestMany hr hhead hmany hedge habove hne
  obtain ⟨f, hf, hfmany⟩ := hn.many
  obtain ⟨l, hl, rfl⟩ := exists_level wf hr hmany hhead hf hfmany hrn
  exact ⟨l, hl, hn⟩

/-- Levels start at the root and at the to-many edges of its chain. -/
lemma mem_roots {e : Edge} : e ∈ (ofEdge g root).flatten.map Outline.root ↔
    e = root ∨ e ∈ g.chain r ∧ e.many = true := by
  obtain ⟨hroot, hread⟩ := isRead_ofEdge wf hr hmany
  rw [List.mem_map]
  constructor
  · rintro ⟨l, hl, rfl⟩
    have hedge := (hread l hl).root
    by_cases hid : l.root.id = r
    · rw [hid, hr] at hedge
      exact .inl (Option.some.inj hedge).symm
    · exact .inr ⟨wf.mem_chain.mpr ⟨hedge, above_level wf hr hmany hl, hid⟩, (hread l hl).many⟩
  · rintro (rfl | ⟨he, hemany⟩)
    · exact ⟨_, mem_flatten_self _, hroot⟩
    · obtain ⟨hedge, habove, -⟩ := wf.mem_chain.mp he
      obtain ⟨l, hl, hid⟩ := exists_level wf hr hmany hhead hedge hemany habove
      refine ⟨l, hl, ?_⟩
      have hsame := (hread l hl).root
      rw [hid, hedge] at hsame
      exact (Option.some.inj hsame).symm

omit hhead in
lemma edges_nodup : ((ofEdge g root).flatten.flatMap edges).Nodup := by
  obtain ⟨-, hread⟩ := isRead_ofEdge wf hr hmany
  rw [List.nodup_flatMap]
  refine ⟨fun l hl => List.nodup_cons.mpr ⟨fun h => ?_, ?_⟩, ?_⟩
  · have hmember := ((hread l hl).mem_members wf).mp h
    simp [(hread l hl).many] at hmember
  · rw [(hread l hl).members]
    exact (members_ascending wf _).imp fun hlt heq => by simp [heq] at hlt
  · have hroots := List.pairwise_map.mp (roots_nodup wf hread)
    refine hroots.imp_of_mem ?_
    intro l l' hl hl' hne
    simp only [Function.onFun, List.disjoint_left, edges, List.mem_cons]
    rintro e (rfl | he) (heq | he')
    · exact hne (by rw [heq])
    · have := ((hread l' hl').mem_members wf).mp he'
      simp [(hread l hl).many] at this
    · have := ((hread l hl).mem_members wf).mp he
      rw [heq] at this
      simp [(hread l' hl').many] at this
    · have hnear := (((hread l hl).mem_members wf).mp he).2.2
      have hnear' := (((hread l' hl').mem_members wf).mp he').2.2
      exact hne (hnear.unique hnear')

/-- The edges of all levels are the root and the edges of its chain. -/
lemma edges_perm : ((ofEdge g root).flatten.flatMap edges).Perm (root :: g.chain r) := by
  have hnodup : (root :: g.chain r).Nodup := by
    refine List.nodup_cons.mpr ⟨fun h => ?_, ?_⟩
    · have := wf.lt_of_mem_chain h
      have := wf.id hr
      omega
    · exact (g.chain_ascending r).imp fun hlt heq => by simp [heq] at hlt
  refine (List.perm_ext_iff_of_nodup (edges_nodup wf hr hmany) hnodup).mpr fun e => ?_
  simp only [List.mem_flatMap, List.mem_cons, edges]
  constructor
  · rintro ⟨l, hl, rfl | he⟩
    · have := (mem_roots wf hr hmany hhead).mp (List.mem_map_of_mem hl)
      exact this.imp_right And.left
    · exact .inr ((mem_members_level wf hr hmany hl).mp he).1
  · intro he
    by_cases hstart : e = root ∨ e ∈ g.chain r ∧ e.many = true
    · obtain ⟨l, hl, hle⟩ := List.mem_map.mp ((mem_roots wf hr hmany hhead).mpr hstart)
      exact ⟨l, hl, .inl hle.symm⟩
    · rw [not_or, not_and] at hstart
      have hchain := he.resolve_left hstart.1
      have hemany : e.many = false := by simpa using hstart.2 hchain
      obtain ⟨l, hl, hnear⟩ := exists_owner wf hr hmany hhead hchain
      exact ⟨l, hl, .inr ((mem_members_level wf hr hmany hl).mpr ⟨hchain, hemany, hnear⟩)⟩

end Root

/-! ### Outlines within outlines -/

omit wf in
/-- An outline that is read off the graph is settled by the edge that it starts at. -/
lemma eq_of_isRead {o o' : Outline} (h : ∀ l ∈ o.flatten, IsRead g l)
    (h' : ∀ l ∈ o'.flatten, IsRead g l) (hroot : o.root = o'.root) : o = o' := by
  induction o using Outline.induction generalizing o' with
  | outline root members nested ih =>
    obtain ⟨root', members', nested'⟩ := o'
    have hread := h _ (mem_flatten_self _)
    have hread' := h' _ (mem_flatten_self _)
    obtain rfl : root = root' := hroot
    have hroots : nested.map Outline.root = nested'.map Outline.root :=
      hread.nested.trans hread'.nested.symm
    have hlength : nested.length = nested'.length := by
      simpa using congrArg List.length hroots
    have hnested : nested = nested' := by
      refine List.ext_getElem hlength fun i hi hi' => ?_
      refine ih _ (List.getElem_mem hi) (fun l hl => ?_) (fun l hl => ?_) ?_
      · exact h l (mem_flatten.mpr (.inr ⟨_, List.getElem_mem hi, hl⟩))
      · exact h' l (mem_flatten.mpr (.inr ⟨_, List.getElem_mem hi', hl⟩))
      · have := List.getElem_of_eq hroots (by simpa using hi)
        simpa using this
    rw [hnested, show members = members' from hread.members.trans hread'.members.symm]

/-- The levels of an outline are the outlines of the edges that they start at. -/
lemma eq_ofEdge {r : Nat} {root : Edge} (hr : g.edge? r = some root) (hmany : root.many = true)
    {l : Outline} (hl : l ∈ (ofEdge g root).flatten) : l = ofEdge g l.root := by
  obtain ⟨-, hread⟩ := isRead_ofEdge wf hr hmany
  obtain ⟨hroot', hread'⟩ := isRead_ofEdge wf (hread l hl).root (hread l hl).many
  exact eq_of_isRead (fun k hk => hread k (flatten_subset hl hk)) hread' hroot'.symm

/-- The outline of a to-many edge is a level of the outline of the head of its chain. -/
lemma exists_ofEdge {r : Nat} {root : Edge} (hr : g.edge? r = some root)
    (hmany : root.many = true) : ∃ h head, g.edge? h = some head ∧ head.many = true ∧
      head.prev = none ∧ ofEdge g root ∈ (ofEdge g head).flatten := by
  obtain ⟨h, head, hh, hprev, habove, hheaded⟩ := wf.exists_head hr
  have hheadMany : head.many = true := by
    by_cases hne : h = r
    · subst hne
      rw [hh] at hr
      cases hr
      exact hmany
    · exact hheaded hne
  obtain ⟨l, hl, hid⟩ := exists_level wf hh hheadMany hprev hr hmany habove
  have hroot : l.root = root := by
    have hread := ((isRead_ofEdge wf hh hheadMany).2 l hl).root
    rw [hid, hr] at hread
    exact (Option.some.inj hread).symm
  refine ⟨h, head, hh, hheadMany, hprev, ?_⟩
  rw [← hroot, ← eq_ofEdge wf hh hheadMany hl]
  exact hl

end Outline

end RelationQuery
