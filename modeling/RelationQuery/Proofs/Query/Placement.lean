import RelationQuery.Proofs.Relation.Lineage
import RelationQuery.Query.Placement

/-!
The places of edges, read off the edges themselves. A chain is taken by its head before any of
its edges is met, so an edge is consumed exactly if it follows another one; of the others, the
to-many edges are aggregations and the rest are plain.
-/

namespace RelationQuery

/-- Joined to the root. -/
def Edge.isPlain (e : Edge) : Bool := !e.many && e.prev.isNone

/-- Gathered into an array of the root. -/
def Edge.isAggregation (e : Edge) : Bool := e.many && e.prev.isNone

namespace Placement

variable {g : Graph}

/-- The places after the first edges of a graph have been read. -/
structure Read (g : Graph) (p : Placement) (edges : List Edge) : Prop where
  plain : p.plain = (edges.filter Edge.isPlain).map Edge.id
  aggregations : p.aggregations = (edges.filter Edge.isAggregation).map Edge.id
  consumed : ∀ i, i ∈ p.consumed ↔
    ∃ h ∈ edges, h.isAggregation = true ∧ i ∈ (g.chain h.id).map Edge.id

variable (wf : g.WellFormed)
include wf

/-- The edge at the end of what has been read is consumed exactly if it follows another one. -/
lemma Read.mem_consumed {p : Placement} {edges rest : List Edge} {e : Edge}
    (h : Read g p edges) (hedges : g.edges.toList = edges ++ e :: rest) :
    e.id ∈ p.consumed ↔ e.prev.isSome = true := by
  have he : g.edge? edges.length = some e := by
    simp [Graph.edge?, ← Array.getElem?_toList, hedges]
  have hid := wf.id he
  rw [h.consumed]
  constructor
  · rintro ⟨k, -, -, hmem⟩
    obtain ⟨e', he', hsame⟩ := List.mem_map.mp hmem
    obtain ⟨hk, habove, hne⟩ := wf.mem_chain.mp he'
    rw [hsame, hid] at hk habove hne
    obtain ⟨p, hp, -⟩ := habove.prev hne he
    simp [hp]
  · intro hprev
    obtain ⟨i, f, hf, hroot, habove, hmany⟩ := wf.exists_head he
    have hne : i ≠ edges.length := by
      rintro rfl
      rw [he] at hf
      cases hf
      simp [hroot] at hprev
    have hlt : i < edges.length := by
      have := wf.le_of_above habove
      omega
    refine ⟨f, ?_, by simp [Edge.isAggregation, hroot, hmany hne], ?_⟩
    · have hget : edges[i]? = some f := by
        have := hf
        simp only [Graph.edge?, ← Array.getElem?_toList, hedges] at this
        rwa [List.getElem?_append_left hlt] at this
      exact List.mem_of_getElem? hget
    · rw [wf.id hf]
      exact List.mem_map_of_mem (wf.mem_chain.mpr ⟨by rw [hid, he], by rwa [hid], by omega⟩)

lemma Read.step {p : Placement} {edges rest : List Edge} {e : Edge} (h : Read g p edges)
    (hedges : g.edges.toList = edges ++ e :: rest) :
    Read g (Placement.step g p e) (edges ++ [e]) := by
  have hconsumed := h.mem_consumed wf hedges
  unfold Placement.step
  split
  · rename_i hmem
    have hprev : e.prev.isSome = true := hconsumed.mp (by simpa using hmem)
    have hplain : e.isPlain = false := by
      cases hp : e.prev <;> simp [Edge.isPlain, hp] at hprev ⊢
    have hagg : e.isAggregation = false := by
      cases hp : e.prev <;> simp [Edge.isAggregation, hp] at hprev ⊢
    exact ⟨by simp [h.plain, hplain], by simp [h.aggregations, hagg],
      fun i => by simp [h.consumed, hagg, or_and_right, exists_or]⟩
  · rename_i hmem
    have hprev : e.prev = none := by
      have := mt hconsumed.mpr (by simpa using hmem)
      simpa using this
    split
    · rename_i hmany
      refine ⟨by simp [h.plain, Edge.isPlain, hmany],
        by simp [h.aggregations, Edge.isAggregation, hmany, hprev], fun i => ?_⟩
      simp [h.consumed, Edge.isAggregation, hmany, hprev, or_and_right, exists_or]
    · rename_i hmany
      refine ⟨by simp [h.plain, Edge.isPlain, hmany, hprev],
        by simp [h.aggregations, Edge.isAggregation, hmany], fun i => ?_⟩
      simp [h.consumed, Edge.isAggregation, hmany, or_and_right, exists_or]

lemma Read.foldl {p : Placement} {edges rest : List Edge} (h : Read g p edges)
    (hedges : g.edges.toList = edges ++ rest) :
    Read g (rest.foldl (Placement.step g) p) (edges ++ rest) := by
  induction rest generalizing p edges with
  | nil => simpa using h
  | cons e rest ih =>
    have := ih (h.step wf hedges) (by simp [hedges])
    simpa using this

lemma read_ofGraph :
    Read g (g.edges.toList.foldl (Placement.step g) {}) g.edges.toList := by
  have hempty : Read g {} [] := ⟨rfl, rfl, by simp⟩
  simpa using hempty.foldl wf (List.nil_append _).symm

/-- The plain edges are those that are neither to-many nor behind another one. -/
lemma plain_ofGraph :
    (Placement.ofGraph g).plain = (g.edges.toList.filter Edge.isPlain).map Edge.id :=
  (read_ofGraph wf).plain

lemma aggregations_ofGraph :
    (Placement.ofGraph g).aggregations =
      (g.edges.toList.filter Edge.isAggregation).map Edge.id :=
  (read_ofGraph wf).aggregations

omit wf in
lemma mem_edges {e : Edge} (wf : g.WellFormed) : e ∈ g.edges.toList ↔ g.edge? e.id = some e := by
  constructor
  · intro h
    obtain ⟨i, hi⟩ := List.mem_iff_getElem?.mp h
    have he : g.edge? i = some e := by simpa [Graph.edge?] using hi
    rw [wf.id he, he]
  · intro h
    have : g.edges.toList[e.id]? = some e := by simpa [Graph.edge?] using h
    exact List.mem_of_getElem? this

lemma mem_edges_of_edge? {i : Nat} {e : Edge} (he : g.edge? i = some e) :
    e ∈ g.edges.toList :=
  (mem_edges wf).mpr (by rw [wf.id he, he])

/-- The aggregations are the to-many edges that stand behind no other one. -/
lemma mem_aggregations {r : Nat} : r ∈ (Placement.ofGraph g).aggregations ↔
    ∃ e, g.edge? r = some e ∧ e.many = true ∧ e.prev = none := by
  simp only [aggregations_ofGraph wf, List.mem_map, List.mem_filter, mem_edges wf,
    Edge.isAggregation, Bool.and_eq_true, Option.isNone_iff_eq_none]
  constructor
  · rintro ⟨e, ⟨he, h⟩, rfl⟩
    exact ⟨e, he, h⟩
  · rintro ⟨e, he, h⟩
    have hid := wf.id he
    exact ⟨e, ⟨by rwa [hid], h⟩, hid⟩

/-- The plain edges are those that are not to-many and stand behind no other one. -/
lemma mem_plain {r : Nat} : r ∈ (Placement.ofGraph g).plain ↔
    ∃ e, g.edge? r = some e ∧ e.many = false ∧ e.prev = none := by
  simp only [plain_ofGraph wf, List.mem_map, List.mem_filter, mem_edges wf, Edge.isPlain,
    Bool.and_eq_true, Bool.not_eq_true', Option.isNone_iff_eq_none]
  constructor
  · rintro ⟨e, ⟨he, h⟩, rfl⟩
    exact ⟨e, he, h⟩
  · rintro ⟨e, he, h⟩
    have hid := wf.id he
    exact ⟨e, ⟨by rwa [hid], h⟩, hid⟩

end Placement

end RelationQuery
