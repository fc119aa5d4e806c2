import RelationQuery.Proofs.Aggregation.Emission
import RelationQuery.Proofs.Query.Placement
import RelationQuery.Proofs.Relation.Sequence

/-!
Relations declared next to each other. The level of an edge is made of the edges of its chain, so
it is the same wherever these stand in a graph: the relations of one script keep their levels when
another script is run before or behind it.
-/

namespace RelationQuery

namespace Graph

/-- The edges of `g` stand in `g'`, `k` places further up. -/
def Embeds (k : Nat) (g g' : Graph) : Prop :=
  ∀ i e, g.edge? i = some e → g'.edge? (k + i) = some (e.shift k)

variable {k : Nat} {base g g' : Graph}

lemma Beside.embeds_first (h : base.Beside g g') : Embeds 0 base g' := by
  intro i e he
  rw [Nat.zero_add, Edge.shift_zero, h.first i (lt_size_of_edge? he), he]

lemma Beside.embeds_second (h : base.Beside g g') : Embeds base.size g g' := by
  intro i e he
  rw [h.second, he, Option.map_some]

namespace Embeds

variable (h : Embeds k g g')
include h

lemma next? {i : Nat} (hi : i < g.size) : g'.next? (k + i) = (g.next? i).map (k + ·) := by
  obtain ⟨e, he⟩ := edge?_of_lt hi
  rw [Graph.next?, Graph.next?, he, h i e he]
  rfl

lemma size_le {i : Nat} (hi : i < g.size) : g.size ≤ g'.size := by
  obtain ⟨e, he⟩ := edge?_of_lt (show g.size - 1 < g.size by omega)
  have := lt_size_of_edge? (h _ e he)
  omega

variable (wf : g.WellFormed)
include wf

/-- Chains are the same, with whatever fuel is enough. -/
lemma chainFrom {fuel fuel' i : Nat} (hi : i < g.size) (hfuel : g.size ≤ fuel + i)
    (hfuel' : g.size ≤ fuel' + i) :
    g'.chainFrom fuel' (k + i) = (g.chainFrom fuel i).map (Edge.shift k) := by
  induction fuel generalizing fuel' i with
  | zero => omega
  | succ fuel ih =>
    obtain ⟨fuel', rfl⟩ : ∃ n, fuel' = n + 1 := ⟨fuel' - 1, by omega⟩
    rw [Graph.chainFrom, Graph.chainFrom, h.next? hi]
    cases hnext : g.next? i with
    | none => rfl
    | some j =>
      obtain ⟨-, hlt, f, hf⟩ := wf.above_next hnext
      have hid := wf.id hf
      have hrest : g'.chainFrom fuel' (k + j) = (g.chainFrom fuel j).map (Edge.shift k) :=
        ih (lt_size_of_edge? hf) (by omega) (by omega)
      have hshift : (f.shift k).id = k + j := by rw [Edge.shift, hid]
      simp only [Option.map_some, Option.bind_some, hf, h j f hf, hid, hshift]
      rw [if_neg (by omega), if_neg (by omega), List.map_cons, hrest]

lemma chain {i : Nat} (hi : i < g.size) : g'.chain (k + i) = (g.chain i).map (Edge.shift k) :=
  h.chainFrom wf hi (Nat.le_add_right _ _) (Nat.le_trans (h.size_le hi) (Nat.le_add_right _ _))

end Embeds

end Graph

namespace Outline

/-! ### Walks -/

/-- The walk `k` places further up. -/
def Walk.shift (k : Nat) (w : Walk) : Walk :=
  ⟨w.owners.map (k + ·), w.members.map (Edge.shift k), w.nested.map (k + ·)⟩

lemma Walk.owns_shift (k : Nat) (w : Walk) (e : Edge) :
    (w.shift k).owns (e.shift k) = w.owns e := by
  rw [Bool.eq_iff_iff, Walk.owns_iff, Walk.owns_iff]
  simp [shift, Edge.shift]

lemma Walk.step_shift (k : Nat) (w : Walk) (e : Edge) :
    (w.shift k).step (e.shift k) = (w.step e).shift k := by
  have howns := w.owns_shift k e
  unfold Walk.owns at howns
  unfold Walk.step
  rw [howns]
  split
  · have hmany : (e.shift k).many = e.many := rfl
    rw [hmany]
    split <;> simp [shift, Edge.shift]
  · rfl

lemma Walk.foldl_shift (k : Nat) (chain : List Edge) (w : Walk) :
    (chain.map (Edge.shift k)).foldl Walk.step (w.shift k) =
      (chain.foldl Walk.step w).shift k := by
  induction chain generalizing w with
  | nil => rfl
  | cons e rest ih => rw [List.map_cons, List.foldl_cons, w.step_shift, ih, List.foldl_cons]

variable {k : Nat} {g g' : Graph} (h : Graph.Embeds k g g') (wf : g.WellFormed)
include h wf

lemma walk_shift {i : Nat} (hi : i < g.size) : walk g' (k + i) = (walk g i).shift k := by
  rw [walk, h.chain wf hi]
  exact Walk.foldl_shift k (g.chain i) { owners := [i] }

lemma deeper_shift {i : Nat} (hi : i < g.size) :
    deeper (walk g' (k + i)) (g'.chain (k + i)) =
      (deeper (walk g i) (g.chain i)).map (Edge.shift k) := by
  rw [h.chain wf hi, walk_shift h wf hi, deeper, deeper, List.filter_map]
  congr 1
  refine List.filter_congr fun e _ => ?_
  rw [Function.comp_apply, Walk.owns_shift]
  rfl

omit h wf

/-! ### Levels -/

lemma name_shift (k : Nat) (root : Edge) (members : List Edge) :
    name (root.shift k) (members.map (Edge.shift k)) = name root members := by
  cases members <;> rfl

lemma slots_columnOrder_shift (k : Nat) (root : Edge) (members : List Edge) :
    (columnOrder (root.shift k) (members.map (Edge.shift k))).flatMap slots =
      (columnOrder root members).flatMap slots := by
  have horder : columnOrder (root.shift k) (members.map (Edge.shift k)) =
      (columnOrder root members).map (Edge.shift k) := by
    unfold columnOrder
    rw [show (root.shift k).bridge = root.bridge from rfl]
    split <;> simp
  rw [horder, List.flatMap_map]
  rfl

lemma selectsColumns_shift (k : Nat) (root : Edge) (members : List Edge) :
    selectsColumns (root.shift k) (members.map (Edge.shift k)) = selectsColumns root members := by
  rw [selectsColumns, ← List.map_cons, List.any_map]
  rfl

lemma joins_shift (k : Nat) (members : List Edge) :
    (members.map (Edge.shift k)).mapM Edge.join = members.mapM Edge.join := by
  rw [List.mapM_map]
  rfl

/-- Nested levels are emitted alike if each of them is. -/
lemma levels_congr {nested nested' : List Outline}
    (hnested : List.Forall₂ (fun o o' => o'.level = o.level) nested nested') (name : String)
    (taken : List String) : levels name taken nested' = levels name taken nested := by
  induction hnested generalizing taken with
  | nil => rfl
  | cons hhead _ ih => simp only [levels, hhead, ih]

/-- A level does not depend on where its edges stand. -/
lemma level_shift (k : Nat) (root : Edge) (members : List Edge) {nested nested' : List Outline}
    (hnested : List.Forall₂ (fun o o' => o'.level = o.level) nested nested') :
    level ⟨root.shift k, members.map (Edge.shift k), nested'⟩ = level ⟨root, members, nested⟩ := by
  have hempty : nested'.isEmpty = nested.isEmpty := by
    cases hnested <;> rfl
  have hnext : (root.shift k).next.isNone = root.next.isNone := by
    simp [Edge.shift]
  simp only [level, name_shift, slots_columnOrder_shift, selectsColumns_shift, joins_shift, hempty,
    hnext, levels_congr hnested]
  rfl

/-- Outlines of the same edges have the same level, with whatever fuel is enough. -/
lemma level_build_shift {k : Nat} {g g' : Graph} (h : Graph.Embeds k g g') (wf : g.WellFormed)
    (wf' : g'.WellFormed) {fuel fuel' : Nat} {e : Edge} (he : g.edge? e.id = some e)
    (hfuel : g.size ≤ fuel + e.id) (hfuel' : g.size ≤ fuel' + e.id) :
    (build g' fuel' (e.shift k)).level = (build g fuel e).level := by
  have hlt := Graph.lt_size_of_edge? he
  induction fuel generalizing fuel' e with
  | zero => omega
  | succ fuel ih =>
    obtain ⟨fuel', rfl⟩ : ∃ n, fuel' = n + 1 := ⟨fuel' - 1, by omega⟩
    have hid : (e.shift k).id = k + e.id := rfl
    have hmembers : (walk g' (k + e.id)).members = (walk g e.id).members.map (Edge.shift k) := by
      rw [walk_shift h wf hlt]
      rfl
    rw [build, build]
    simp only [hid]
    rw [hmembers, nested_edges wf', nested_edges wf, deeper_shift h wf hlt, List.map_map]
    refine level_shift k e _ ?_
    rw [List.forall₂_map_left_iff, List.forall₂_map_right_iff]
    refine List.forall₂_same.mpr fun c hc => ?_
    -- a nested level starts further on in the chain, so the fuel that is left will do
    have hchain := (List.mem_filter.mp hc).1
    have hedge := (wf.mem_chain.mp hchain).1
    have habove := wf.lt_of_mem_chain hchain
    exact ih hedge (by omega) (by omega) (Graph.lt_size_of_edge? hedge)

end Outline

namespace Graph

/-- An edge starts the same level in a graph that its own stands in. -/
lemma Embeds.level {k : Nat} {g g' : Graph} (h : Embeds k g g') (wf : g.WellFormed)
    (wf' : g'.WellFormed) {i : Nat} (hi : i < g.size) : g'.level (k + i) = g.level i := by
  obtain ⟨e, he⟩ := edge?_of_lt hi
  have hid := wf.id he
  subst hid
  rw [Graph.level, Graph.level, h _ e he, he]
  exact Outline.level_build_shift h wf wf' he (Nat.le_add_right _ _)
    (Nat.le_trans (h.size_le hi) (Nat.le_add_right _ _))

lemma Beside.toList_edges {base g g' : Graph} (h : base.Beside g g') :
    g'.edges.toList = base.edges.toList ++ g.edges.toList.map (Edge.shift base.size) := by
  have hget : ∀ (graph : Graph) (i : Nat), graph.edges.toList[i]? = graph.edge? i := by
    simp [edge?]
  have hlength : base.edges.toList.length = base.size := Array.length_toList
  refine List.ext_getElem? fun i => ?_
  rw [hget]
  rcases Nat.lt_or_ge i base.size with hlt | hge
  · rw [List.getElem?_append_left (by omega), hget, h.first i hlt]
  · obtain ⟨j, rfl⟩ := Nat.exists_eq_add_of_le hge
    rw [List.getElem?_append_right (by omega), List.getElem?_map, hlength, Nat.add_sub_cancel_left,
      hget, h.second]

/-- The aggregations of a graph are those of its parts. -/
lemma Beside.aggregations {base g g' : Graph} (h : base.Beside g g') (hbase : base.WellFormed)
    (wf : g.WellFormed) (wf' : g'.WellFormed) : (Placement.ofGraph g').aggregations =
      (Placement.ofGraph base).aggregations ++
        (Placement.ofGraph g).aggregations.map (base.size + ·) := by
  have hsame : Edge.isAggregation ∘ Edge.shift base.size = Edge.isAggregation := by
    funext e
    simp [Edge.isAggregation, Edge.shift]
  rw [Placement.aggregations_ofGraph wf', Placement.aggregations_ofGraph hbase,
    Placement.aggregations_ofGraph wf, h.toList_edges, List.filter_append, List.map_append,
    List.filter_map, hsame, List.map_map, List.map_map]
  rfl

end Graph

/-- **Relations compile independently**: where a script leaves the foreign key of the root as it
was, the graph of this script and another one behind it has the aggregations of both. Each has the
level, or the error, that it has in the graph of its own script alone. -/
theorem Script.levels_followedBy (first second : Script) (schema : Schema) (e : Entity)
    (hkey : (first.rekey schema (.ofEntity e)).foreignKey? = some e.foreignKey) :
    let base := (first.declare schema e).graph
    let own := (second.declare schema e).graph
    let g := ((first.followedBy second).declare schema e).graph
    (Placement.ofGraph g).aggregations = (Placement.ofGraph base).aggregations ++
        (Placement.ofGraph own).aggregations.map (base.size + ·) ∧
      (∀ i < base.size, g.level i = base.level i) ∧
        ∀ i < own.size, g.level (base.size + i) = own.level i := by
  intro base own g
  have hbeside : base.Beside own g := first.beside_followedBy second schema e hkey
  have hbase := first.wellFormed_declare schema e
  have hown := second.wellFormed_declare schema e
  have wf := (first.followedBy second).wellFormed_declare schema e
  refine ⟨hbeside.aggregations hbase hown wf, fun i hi => ?_, fun i hi => ?_⟩
  · have hlevel := hbeside.embeds_first.level hbase wf hi
    rwa [Nat.zero_add] at hlevel
  · exact hbeside.embeds_second.level hown wf hi

/-- The likes of a post with those who gave them. -/
def Script.likes : Script :=
  .relate (.many "like") [.columns [.column "stars"]]
    (.relate (.one "liker") [.columns [.column "name"]] .done .done) .done

/-- The thread of a post starts the same level behind its likes. -/
theorem Script.levels_likes_thread :
    let g := ((likes.followedBy thread).declare .unrelated (Schema.unrelated.entity "post")).graph
    (Placement.ofGraph g).aggregations = [0, 2] ∧
      ∃ level, Graph.ofThread.level 0 = .ok (some level) ∧ g.level 2 = .ok (some level) := by
  intro g
  obtain ⟨hplaces, -, hlevels⟩ :=
    likes.levels_followedBy thread .unrelated (Schema.unrelated.entity "post") rfl
  obtain ⟨level, hlevel⟩ : ∃ level, Graph.ofThread.level 0 = .ok (some level) := ⟨_, rfl⟩
  have hsame : g.level 2 = Graph.ofThread.level 0 := hlevels 0 (by decide)
  exact ⟨hplaces.trans (by decide), level, hlevel, hsame.trans hlevel⟩

end RelationQuery
