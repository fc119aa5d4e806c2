import Mathlib.Data.List.Basic
import RelationQuery.Aggregation.Outline
import RelationQuery.Proofs.Relation.Lineage

/-!
What the walk over a chain takes in. The chain of a to-many edge holds its own level, all deeper
ones and, behind them, later edges of levels around it; the owners that the walk gathers tell
them apart. It takes in exactly the edges whose nearest to-many edge is the one it began at.
-/

namespace RelationQuery

namespace Outline

/-- Whether the edge was declared at one of the owners. -/
def Walk.owns (w : Walk) (e : Edge) : Bool := e.anchor.any w.owners.contains

/-- The edges that a walk joins to its level, and the to-many ones that it nests in it. -/
def joined (w : Walk) (chain : List Edge) : List Edge :=
  chain.filter fun e => !e.many && w.owns e

def deeper (w : Walk) (chain : List Edge) : List Edge :=
  chain.filter fun e => e.many && w.owns e

lemma Walk.owns_iff {w : Walk} {e : Edge} :
    w.owns e = true ↔ ∃ a, e.anchor = some a ∧ a ∈ w.owners := by
  cases h : e.anchor <;> simp [Walk.owns, h]

/-- Anchors come before the edges declared at them, so the owners that the walk ends with own no
more of the edges than those it had when it met them. -/
lemma foldl_step (chain : List Edge) (w : Walk) (hsorted : chain.Pairwise (·.id < ·.id))
    (hanchor : ∀ e ∈ chain, ∀ a, e.anchor = some a → a < e.id) :
    let w' := chain.foldl Walk.step w
    w'.owners = w.owners ++ (joined w' chain).map Edge.id ∧
      w'.members = w.members ++ joined w' chain ∧
      w'.nested = w.nested ++ (deeper w' chain).map Edge.id := by
  induction chain generalizing w with
  | nil => simp [joined, deeper]
  | cons e rest ih =>
    obtain ⟨hlt, hrest⟩ := List.pairwise_cons.mp hsorted
    obtain ⟨howners, hmembers, hnested⟩ :=
      ih (w.step e) hrest fun k hk => hanchor k (List.mem_cons_of_mem _ hk)
    simp only [List.foldl_cons]
    set w' := rest.foldl Walk.step (w.step e)
    have howns : w'.owns e = w.owns e := by
      rw [Bool.eq_iff_iff, Walk.owns_iff, Walk.owns_iff]
      refine exists_congr fun a => and_congr_right fun ha => ?_
      have hae := hanchor e List.mem_cons_self a ha
      rw [howners]
      constructor
      · intro hmem
        rcases List.mem_append.mp hmem with h | h
        · unfold Walk.step at h
          split at h
          · split at h
            · exact h
            · simp only [List.mem_append, List.mem_singleton] at h
              exact h.resolve_right (by omega)
          · exact h
        · -- an owner from further on is no anchor of this edge
          obtain ⟨k, hk, rfl⟩ := List.mem_map.mp h
          have := hlt k (List.mem_filter.mp hk).1
          omega
      · intro hmem
        refine List.mem_append_left _ ?_
        unfold Walk.step
        split
        · split
          · exact hmem
          · exact List.mem_append_left _ hmem
        · exact hmem
    have hstep : w.step e =
        { owners := w.owners ++ if !e.many && w'.owns e then [e.id] else []
          members := w.members ++ if !e.many && w'.owns e then [e] else []
          nested := w.nested ++ if e.many && w'.owns e then [e.id] else [] } := by
      rw [howns]
      unfold Walk.step Walk.owns
      cases e.many <;> cases e.anchor.any w.owners.contains <;> simp
    rw [howners, hmembers, hnested, hstep]
    simp only [joined, deeper, List.filter_cons]
    refine ⟨?_, ?_, ?_⟩ <;> split <;> simp

variable {g : Graph} {r : Nat} {root : Edge} (wf : g.WellFormed)
include wf

lemma walk_spec (r : Nat) :
    (walk g r).owners = r :: (joined (walk g r) (g.chain r)).map Edge.id ∧
      (walk g r).members = joined (walk g r) (g.chain r) ∧
      (walk g r).nested = (deeper (walk g r) (g.chain r)).map Edge.id := by
  have h := foldl_step (g.chain r) { owners := [r] } (g.chain_ascending r) fun e he a ha =>
    wf.anchor_lt (wf.mem_chain.mp he).1 ha
  simpa [walk] using h

/-- The walk owns an edge exactly if it began at the nearest to-many edge above it. -/
lemma owns_walk_iff (hr : g.edge? r = some root) (hmany : root.many = true) {e : Edge}
    (he : e ∈ g.chain r) : (walk g r).owns e = true ↔ g.NearestMany e.id r := by
  generalize hi : e.id = i
  induction i using Nat.strongRecOn generalizing e with
  | _ i ih =>
    subst hi
    obtain ⟨hedge, habove, hne⟩ := wf.mem_chain.mp he
    obtain ⟨p, hp, hrp⟩ := habove.prev hne hedge
    obtain ⟨a, ha, hap⟩ := wf.chained hedge hp
    have hlt := wf.anchor_lt hedge ha
    obtain ⟨f, hf⟩ := Graph.edge?_of_lt (Nat.lt_trans hlt (Graph.lt_size_of_edge? hedge))
    have hfa := wf.id hf
    rw [Walk.owns_iff, Graph.nearestMany_iff hedge ha hf, (walk_spec wf r).1]
    simp only [ha, Option.some.injEq, exists_eq_left', List.mem_cons, List.mem_map]
    constructor
    · rintro (rfl | ⟨k, hk, rfl⟩)
      · rw [hr] at hf
        cases hf
        simp [hmany]
      · obtain ⟨hkchain, hkowned⟩ := List.mem_filter.mp hk
        rw [(wf.mem_chain.mp hkchain).1] at hf
        cases hf
        simp only [Bool.and_eq_true, Bool.not_eq_true'] at hkowned
        rw [if_neg (by simp [hkowned.1])]
        exact (ih f.id hlt hkchain rfl).mp hkowned.2
    · split
      · rintro rfl
        exact .inl rfl
      · rename_i hfmany
        intro hnear
        -- the anchor is itself behind `r`, as both are above the edge
        have hra : g.Above r a := by
          rcases Graph.WellFormed.above_total hrp hap with h | h
          · exact h
          · have := wf.le_of_above h
            have := wf.lt_of_nearestMany hnear
            omega
        have hfchain : f ∈ g.chain r :=
          wf.mem_chain.mpr ⟨by rw [hfa, hf], hfa ▸ hra,
            hfa ▸ Nat.ne_of_gt (wf.lt_of_nearestMany hnear)⟩
        refine .inr ⟨f, List.mem_filter.mpr ⟨hfchain, ?_⟩, hfa⟩
        simpa [hfmany] using (ih a hlt hfchain hfa).mpr hnear

/-- **Members of a level**: the edges on the chain that are not to-many themselves and have the
level's root as their nearest to-many edge. -/
theorem mem_members (hr : g.edge? r = some root) (hmany : root.many = true) {e : Edge} :
    e ∈ (walk g r).members ↔ e ∈ g.chain r ∧ e.many = false ∧ g.NearestMany e.id r := by
  rw [(walk_spec wf r).2.1, joined, List.mem_filter]
  refine and_congr_right fun he => ?_
  simp [owns_walk_iff wf hr hmany he]

lemma members_ascending (r : Nat) : (walk g r).members.Pairwise (·.id < ·.id) := by
  rw [(walk_spec wf r).2.1]
  exact (g.chain_ascending r).filter _

/-- The edges that start the levels nested in the one of `r`. -/
lemma nested_edges (r : Nat) :
    (walk g r).nested.filterMap g.edge? = deeper (walk g r) (g.chain r) := by
  rw [(walk_spec wf r).2.2, List.filterMap_map]
  have h : ∀ e ∈ deeper (walk g r) (g.chain r), (g.edge? ∘ Edge.id) e = some e :=
    fun e he => (wf.mem_chain.mp (List.mem_filter.mp he).1).1
  rw [List.filterMap_congr h, List.filterMap_some]

/-- **Levels nested in a level**: they start at the to-many edges on the chain that have the
level's root as their nearest to-many edge. -/
theorem mem_deeper (hr : g.edge? r = some root) (hmany : root.many = true) {e : Edge} :
    e ∈ deeper (walk g r) (g.chain r) ↔
      e ∈ g.chain r ∧ e.many = true ∧ g.NearestMany e.id r := by
  rw [deeper, List.mem_filter]
  refine and_congr_right fun he => ?_
  simp [owns_walk_iff wf hr hmany he]

omit wf in
lemma deeper_ascending (g : Graph) (r : Nat) :
    (deeper (walk g r) (g.chain r)).Pairwise (·.id < ·.id) :=
  (g.chain_ascending r).filter _

end Outline

end RelationQuery
