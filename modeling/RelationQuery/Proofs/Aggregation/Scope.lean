import RelationQuery.Aggregation.Render
import RelationQuery.Proofs.Aggregation.Emission
import RelationQuery.Proofs.Relation.Comparison
import RelationQuery.Proofs.Relation.Tied

/-!
The scope of levels. A level reads the tables of its edges. In plain scripts the source of each
edge of a level is among them, and so is that of each level nested in it: the anchor of an edge is
in the level of its nearest to-many edge, or is that edge itself.
-/

namespace RelationQuery

open Text (Undotted)

namespace Outline

lemma sources_of_joins {members : List Edge} {joins : List JoinClause}
    (h : members.mapM Edge.join = .ok joins) :
    joins.map JoinClause.source = members.map fun e => .table e.target := by
  induction members generalizing joins with
  | nil =>
    simp only [List.mapM_nil, pure, Except.pure, Except.ok.injEq] at h
    simp [← h]
  | cons e rest ih =>
    obtain ⟨clause, others, hclause, hothers, rfl⟩ := mapM_cons_eq_ok h
    rw [List.map_cons, List.map_cons, Edge.source_of_join hclause, ih hothers]

/-- The tables that an emitted level reads are those of its edges. -/
lemma EmitsAs.scope {o : Outline} {L : Level} (h : o.EmitsAs L) :
    L.rows.scope = o.edges.map (·.target.exposed) := by
  have hsources := sources_of_joins h.joins
  have hexposed : L.joins.map (·.source.exposed) =
      (L.joins.map JoinClause.source).map JoinSource.exposed := by
    rw [List.map_map]
    rfl
  simp only [Select.scope, Level.rows, edges, hexposed, hsources, h.table]
  simp [JoinSource.exposed]

/-- Joins are in scope if their sources are the targets of edges before them. -/
lemma scopedFrom_joins {names : List String} {members : List Edge} {joins : List JoinClause}
    (h : members.mapM Edge.join = .ok joins)
    (hleft : ∀ e ∈ members, ∀ c ∈ e.predicate.terms, Undotted c.left)
    (hsource : ∀ before e after, members = before ++ e :: after →
      e.source.asName ∈ names ++ before.map (·.target.exposed)) :
    Select.ScopedFrom names joins := by
  induction members generalizing names joins with
  | nil =>
    simp only [List.mapM_nil, pure, Except.pure, Except.ok.injEq] at h
    subst h
    trivial
  | cons e rest ih =>
    obtain ⟨clause, others, hclause, hothers, rfl⟩ := mapM_cons_eq_ok h
    rw [List.forall_mem_cons] at hleft
    refine ⟨fun term hterm => ?_, ih hothers hleft.2 ?_⟩
    · have hfirst := hsource [] e rest rfl
      rw [List.map_nil, List.append_nil] at hfirst
      exact ⟨_, hfirst, Edge.qualifier_of_join hleft.1 hclause term hterm⟩
    · intro before k after hrest
      have hlater := hsource (e :: before) k after (by rw [hrest, List.cons_append])
      rw [Edge.source_of_join hclause, List.append_assoc]
      exact hlater

section Root

variable {g : Graph} {r : Nat} {root : Edge} (wf : g.WellFormed) (htied : g.AllTied)
  (hr : g.edge? r = some root) (hmany : root.many = true) (hhead : root.prev = none)
include wf htied hr hmany hhead

/-- The source of what belongs to a level is the target of an edge before it on that level. -/
lemma exists_source {l : Outline} (hl : l ∈ (ofEdge g root).flatten) {e : Edge}
    (he : e ∈ g.chain r) (hnear : g.NearestMany e.id l.root.id) :
    ∃ f ∈ l.edges, f.id < e.id ∧ f.target = e.source := by
  obtain ⟨hedge, habove, hne⟩ := wf.mem_chain.mp he
  obtain ⟨p, hp, -⟩ := habove.prev hne hedge
  obtain ⟨a, ha, -⟩ := wf.chained hedge hp
  have hsource := (htied _ _ hedge).2.source
  rw [ha] at hsource
  obtain ⟨f, hf, htarget⟩ := hsource
  have hfid := wf.id hf
  have hlt := wf.anchor_lt hedge ha
  refine ⟨f, ?_, by rwa [hfid], htarget⟩
  have hstep := (Graph.nearestMany_iff hedge ha hf).mp hnear
  split at hstep
  · -- the anchor is the to-many edge itself
    have hstart := ((isRead_ofEdge wf hr hmany).2 l hl).root
    rw [hstep, hf] at hstart
    rw [edges, Option.some.inj hstart]
    exact List.mem_cons_self
  · rename_i hfmany
    have hfmany' : f.many = false := by simpa using hfmany
    have hra := wf.above_anchor hr hhead hedge habove hne ha
    have har : a ≠ r := by
      rintro rfl
      rw [hr] at hf
      cases hf
      exact hfmany hmany
    have hchain : f ∈ g.chain r := wf.mem_chain.mpr ⟨by rw [hfid, hf], by rwa [hfid], by rwa [hfid]⟩
    refine List.mem_cons_of_mem _ ((mem_members_level wf hr hmany hl).mpr ⟨hchain, hfmany', ?_⟩)
    rwa [hfid]

omit hhead in
lemma exposed_of_mem_edges {l : Outline} (hl : l ∈ (ofEdge g root).flatten) {f : Edge}
    (hf : f ∈ l.edges) : f.target.exposed = f.target.asName := by
  have hedge : g.edge? f.id = some f := by
    rcases List.mem_cons.mp hf with rfl | hmember
    · exact ((isRead_ofEdge wf hr hmany).2 l hl).root
    · exact (wf.mem_chain.mp ((mem_members_level wf hr hmany hl).mp hmember).1).1
  exact Table.exposed_of_ne (htied _ _ hedge).2.named

/-- A level compares columns of its own tables, and so do those nested in it for their rows. -/
lemma scoped_of_emitsAs {l : Outline} (hl : l ∈ (ofEdge g root).flatten) {L : Level}
    (h : l.EmitsAs L) {result : Option Level} (hlevel : (ofEdge g root).level = .ok result) :
    L.rows.Scoped ∧ ∀ inner ∈ L.nested, ∃ name ∈ L.rows.scope,
      inner.correlation.outer.qualifier = some name := by
  have hread := (isRead_ofEdge wf hr hmany).2 l hl
  refine ⟨?_, fun inner hinner => ?_⟩
  · rw [Select.Scoped, Level.rows, h.table]
    refine scopedFrom_joins h.joins ?_ ?_
    · intro e he
      have hchain := ((mem_members_level wf hr hmany hl).mp he).1
      exact (htied _ _ (wf.mem_chain.mp hchain).1).2.left
    · intro before e after hsplit
      have he : e ∈ l.members := by
        rw [hsplit]
        exact List.mem_append_right _ List.mem_cons_self
      obtain ⟨hchain, -, hnear⟩ := (mem_members_level wf hr hmany hl).mp he
      obtain ⟨f, hf, hlt, htarget⟩ := exists_source wf htied hr hmany hhead hl hchain hnear
      rw [← htarget, ← exposed_of_mem_edges wf htied hr hmany hl hf]
      rcases List.mem_cons.mp hf with rfl | hmember
      · exact List.mem_append_left _ List.mem_cons_self
      · -- members stand in the order of declaration
        refine List.mem_append_right _ (List.mem_map_of_mem ?_)
        have hascending := members_ascending wf l.root.id
        rw [← hread.members, hsplit, List.pairwise_append] at hascending
        rw [hsplit, List.mem_append, List.mem_cons] at hmember
        rcases hmember with hbefore | rfl | hafter
        · exact hbefore
        · omega
        · have := (List.pairwise_cons.mp hascending.2.1).1 f hafter
          omega
  · rw [h.nested] at hinner
    obtain ⟨c, hc, hemitted⟩ := List.mem_filterMap.mp hinner
    have hemits := emitsAs_of_emitted hlevel (nested_subset hl hc) hemitted
    obtain ⟨hchain, -, hnear⟩ := (mem_nested_level wf hr hmany hl).mp (List.mem_map_of_mem hc)
    obtain ⟨f, hf, -, htarget⟩ := exists_source wf htied hr hmany hhead hl hchain hnear
    have hleft := (htied _ _ (wf.mem_chain.mp hchain).1).2.left
    refine ⟨f.target.exposed, ?_, ?_⟩
    · rw [h.scope]
      exact List.mem_map_of_mem hf
    · rw [Edge.qualifier_of_correlation hleft hemits.correlation, ← htarget,
        exposed_of_mem_edges wf htied hr hmany hl hf]

end Root

end Outline

end RelationQuery
