import Mathlib.Data.List.Forall2
import RelationQuery.Proofs.Aggregation.Emission
import RelationQuery.Proofs.Query.Parts
import RelationQuery.Proofs.Query.Placement
import RelationQuery.Proofs.Relation.Comparison

/-!
One place for every edge. Each edge of a graph is joined to the root, gathered into an array of the
root, or inside one of these arrays, and never two of them. The root query has one join for every
edge of the first kind and one for every array of the second that holds anything, in the order of
declaration, and names the arrays as its relations.
-/

namespace RelationQuery

namespace Placement

/-! ### Looking places up -/

section Listed

variable {places : Array Nat} (hsorted : places.toList.Pairwise (· < ·)) {id m i : Nat}
include hsorted

lemma lt_of_getElem_lt (hm : m < places.size) (hi : places[i]? = some id)
    (h : places[m] < id) : m < i := by
  obtain ⟨hlt, rfl⟩ := Array.getElem?_eq_some_iff.mp hi
  rcases Nat.lt_trichotomy m i with hmi | rfl | him
  · exact hmi
  · omega
  · have := List.pairwise_iff_getElem.mp hsorted i m hlt hm him
    simp only [Array.getElem_toList] at this
    omega

lemma lt_of_lt_getElem (hm : m < places.size) (hi : places[i]? = some id)
    (h : id < places[m]) : i < m := by
  obtain ⟨hlt, rfl⟩ := Array.getElem?_eq_some_iff.mp hi
  rcases Nat.lt_trichotomy m i with hmi | rfl | him
  · have := List.pairwise_iff_getElem.mp hsorted m i hm hlt hmi
    simp only [Array.getElem_toList] at this
    omega
  · omega
  · exact him

/-- Halving finds exactly what stands between the bounds. -/
lemma binSearchAux_iff (lo : Fin (places.size + 1)) (hi : Fin places.size) (h : lo.1 ≤ hi.1) :
    Array.binSearchAux (fun a b => decide (a < b)) Option.isSome places id lo hi h = true ↔
      ∃ i, lo.1 ≤ i ∧ i ≤ hi.1 ∧ places[i]? = some id := by
  fun_induction Array.binSearchAux (fun a b => decide (a < b)) Option.isSome places id lo hi h with
  | case1 lo hi _ m a hless hnext _ ih =>
    have hbehind : ∀ i, places[i]? = some id → m < i := fun i hi =>
      lt_of_getElem_lt hsorted (by omega) hi (by simpa using hless)
    rw [ih]
    constructor
    · rintro ⟨i, hmi, hhi, hi⟩
      exact ⟨i, by simp only at hmi; omega, hhi, hi⟩
    · rintro ⟨i, -, hhi, hi⟩
      exact ⟨i, hbehind i hi, hhi, hi⟩
  | case2 lo hi _ m a hless hlast _ =>
    have hbehind : ∀ i, places[i]? = some id → m < i := fun i hi =>
      lt_of_getElem_lt hsorted (by omega) hi (by simpa using hless)
    simp only [Option.isSome_none, Bool.false_eq_true, false_iff, not_exists, not_and]
    intro i _ hhi hi
    have := hbehind i hi
    omega
  | case3 lo hi _ m a _ hgreater hfirst _ =>
    have hbefore : ∀ i, places[i]? = some id → i < m := fun i hi =>
      lt_of_lt_getElem hsorted (by omega) hi (by simpa using hgreater)
    simp only [Option.isSome_none, Bool.false_eq_true, false_iff, not_exists, not_and]
    intro i hlo _ hi
    have := hbefore i hi
    omega
  | case4 lo hi _ m a _ hgreater hnext _ ih =>
    have hbefore : ∀ i, places[i]? = some id → i < m := fun i hi =>
      lt_of_lt_getElem hsorted (by omega) hi (by simpa using hgreater)
    rw [ih]
    constructor
    · rintro ⟨i, hlo, him, hi⟩
      exact ⟨i, hlo, by simp only at him; omega, hi⟩
    · rintro ⟨i, hlo, -, hi⟩
      have := hbefore i hi
      exact ⟨i, hlo, by simp only; omega, hi⟩
  | case5 lo hi _ m a hless hgreater _ =>
    have hm : m < places.size := by omega
    have hfound : places[m] = id := by
      simp only [decide_eq_true_eq] at hless hgreater
      exact Nat.le_antisymm (Nat.le_of_not_lt hgreater) (Nat.le_of_not_lt hless)
    simp only [Option.isSome_some, true_iff]
    exact ⟨m, by omega, by omega, by rw [Array.getElem?_eq_getElem hm, hfound]⟩

end Listed

/-- In an ascending list, the search finds exactly the members. -/
lemma listed_iff {places : List Nat} (hsorted : places.Pairwise (· < ·)) {id : Nat} :
    listed places id = true ↔ id ∈ places := by
  unfold listed Array.binSearchContains
  split
  · rename_i hne
    simp only [List.size_toArray] at hne
    simp only [List.size_toArray, Nat.zero_le, dite_true]
    rw [binSearchAux_iff hsorted, List.mem_iff_getElem?]
    refine exists_congr fun i => ?_
    simp only [List.getElem?_toArray]
    constructor
    · exact fun h => h.2.2
    · intro h
      obtain ⟨hlt, -⟩ := List.getElem?_eq_some_iff.mp h
      exact ⟨Nat.zero_le _, by split <;> omega, h⟩
  · rename_i hempty
    have hnil : places = [] := List.eq_nil_of_length_eq_zero (by simpa using hempty)
    simp [hnil]

/-! ### Places -/

/-- Every edge has one place: each of the three lists ascends, no two of them meet, together they
hold all edges, and looking an edge up in one of them finds it if it is there. -/
structure Assigns (g : Graph) (p : Placement) : Prop where
  ascending : p.plain.Pairwise (· < ·) ∧ p.aggregations.Pairwise (· < ·) ∧
    p.consumed.Pairwise (· < ·)
  disjoint : p.plain.Disjoint p.aggregations ∧ p.plain.Disjoint p.consumed ∧
    p.aggregations.Disjoint p.consumed
  covers : ∀ i, i < g.size ↔ i ∈ p.plain ∨ i ∈ p.aggregations ∨ i ∈ p.consumed
  plain : ∀ i, i ∈ p.plain ↔ ∃ e, g.edge? i = some e ∧ e.many = false ∧ e.prev = none
  aggregations : ∀ i, i ∈ p.aggregations ↔ ∃ e, g.edge? i = some e ∧ e.many = true ∧ e.prev = none
  consumed : ∀ i, i ∈ p.consumed ↔ ∃ e, g.edge? i = some e ∧ e.prev ≠ none
  lookup : ∀ i, (p.isPlain i = true ↔ i ∈ p.plain) ∧
    (p.isAggregation i = true ↔ i ∈ p.aggregations) ∧ (p.isConsumed i = true ↔ i ∈ p.consumed)

section Declared

variable {g : Graph} (wf : g.WellFormed)
include wf

lemma edges_ascending : g.edges.toList.Pairwise (·.id < ·.id) := by
  rw [List.pairwise_iff_getElem]
  intro i j hi hj hij
  have hid : ∀ (k : Nat) (hk : k < g.edges.toList.length), g.edges.toList[k].id = k :=
    fun k hk => wf.id (by simp [Graph.edge?])
  rw [hid i hi, hid j hj]
  exact hij

/-- The chains of the aggregations hold the edges that follow another one. -/
lemma exists_aggregation_iff {i : Nat} :
    (∃ h ∈ g.edges.toList, h.isAggregation = true ∧ i ∈ (g.chain h.id).map Edge.id) ↔
      ∃ e, g.edge? i = some e ∧ e.prev ≠ none := by
  constructor
  · rintro ⟨h, -, -, hmem⟩
    obtain ⟨e, he, rfl⟩ := List.mem_map.mp hmem
    obtain ⟨hedge, habove, hne⟩ := wf.mem_chain.mp he
    obtain ⟨p, hp, -⟩ := habove.prev hne hedge
    exact ⟨e, hedge, by simp [hp]⟩
  · rintro ⟨e, he, hprev⟩
    obtain ⟨h, f, hf, hhead, habove, hmany⟩ := wf.exists_head he
    have hne : h ≠ i := by
      rintro rfl
      rw [hf] at he
      cases he
      exact hprev hhead
    have hid := wf.id he
    have hfid := wf.id hf
    refine ⟨f, mem_edges_of_edge? wf hf, ?_, ?_⟩
    · simp [Edge.isAggregation, hmany hne, hhead]
    · rw [hfid, List.mem_map]
      exact ⟨e, wf.mem_chain.mpr ⟨by rw [hid, he], by rwa [hid], by rw [hid]; exact hne.symm⟩, hid⟩

/-- The consumed edges are those that follow another one. -/
lemma mem_consumed {i : Nat} : i ∈ (Placement.ofGraph g).consumed ↔
    ∃ e, g.edge? i = some e ∧ e.prev ≠ none := by
  rw [← exists_aggregation_iff wf, ← (read_ofGraph wf).consumed i]
  simp only [ofGraph, List.mem_filter, List.mem_range, List.contains_iff_mem, and_iff_right_iff_imp]
  intro hmem
  obtain ⟨e, he, -⟩ := (exists_aggregation_iff wf).mp (((read_ofGraph wf).consumed i).mp hmem)
  exact Graph.lt_size_of_edge? he

lemma assigns_ofGraph : (Placement.ofGraph g).Assigns g := by
  have hplain : (Placement.ofGraph g).plain.Pairwise (· < ·) := by
    rw [plain_ofGraph wf, List.pairwise_map]
    exact (edges_ascending wf).filter _
  have harrays : (Placement.ofGraph g).aggregations.Pairwise (· < ·) := by
    rw [aggregations_ofGraph wf, List.pairwise_map]
    exact (edges_ascending wf).filter _
  have hconsumed : (Placement.ofGraph g).consumed.Pairwise (· < ·) :=
    List.pairwise_lt_range.filter _
  refine { ascending := ⟨hplain, harrays, hconsumed⟩, disjoint := ⟨?_, ?_, ?_⟩, covers := ?_,
           plain := fun _ => mem_plain wf, aggregations := fun _ => mem_aggregations wf,
           consumed := fun _ => mem_consumed wf,
           lookup := fun _ => ⟨listed_iff hplain, listed_iff harrays, listed_iff hconsumed⟩ }
  · intro i hi hi'
    obtain ⟨e, he, hmany, -⟩ := (mem_plain wf).mp hi
    obtain ⟨e', he', hmany', -⟩ := (mem_aggregations wf).mp hi'
    rw [he] at he'
    cases he'
    simp [hmany] at hmany'
  · intro i hi hi'
    obtain ⟨e, he, -, hprev⟩ := (mem_plain wf).mp hi
    obtain ⟨e', he', hprev'⟩ := (mem_consumed wf).mp hi'
    rw [he] at he'
    cases he'
    exact hprev' hprev
  · intro i hi hi'
    obtain ⟨e, he, -, hprev⟩ := (mem_aggregations wf).mp hi
    obtain ⟨e', he', hprev'⟩ := (mem_consumed wf).mp hi'
    rw [he] at he'
    cases he'
    exact hprev' hprev
  · intro i
    rw [mem_plain wf, mem_aggregations wf, mem_consumed wf]
    constructor
    · intro hi
      obtain ⟨e, he⟩ := Graph.edge?_of_lt hi
      by_cases hprev : e.prev = none
      · cases hmany : e.many with
        | false => exact .inl ⟨e, he, hmany, hprev⟩
        | true => exact .inr (.inl ⟨e, he, hmany, hprev⟩)
      · exact .inr (.inr ⟨e, he, hprev⟩)
    · rintro (⟨e, he, -⟩ | ⟨e, he, -⟩ | ⟨e, he, -⟩) <;> exact Graph.lt_size_of_edge? he

end Declared

end Placement

/-! ### Joins of the root -/

/-- The alias of a derived table. -/
def JoinSource.derivedName? : JoinSource → Option String
  | .table _ => none
  | .derived _ asName => some asName

namespace Graph

/-- Whether an edge is joined to the root: a plain one always is, an aggregation if its array holds
anything. -/
def joinsRoot (g : Graph) (p : Placement) (e : Edge) : Bool :=
  p.isPlain e.id || p.isAggregation e.id && (g.level e.id).toOption.join.isSome

/-- The join that an edge brings into the root query: of its own table, or of the derived table
that holds its array. -/
inductive RootJoin (g : Graph) (p : Placement) (t : Target) (e : Edge) : JoinClause → Prop
  | table {clause : JoinClause} (hplain : e.id ∈ p.plain) (hclause : e.join = .ok clause)
      (hsource : clause.source = .table e.target) : RootJoin g p t e clause
  | derived {level : Level} (harray : e.id ∈ p.aggregations)
      (hlevel : g.level e.id = .ok (some level)) : RootJoin g p t e (level.joinClause t)

end Graph

namespace Plan

variable {root : Entity} {g : Graph} {p : Placement} {taken : List String} {edges : List Edge}
  {parts : List Part}

/-- The joins of the parts belong to the edges that are joined to the root, one to each. -/
lemma Gathers.rootJoins (t : Target) (hp : p.Assigns g)
    (h : Gathers root g p taken edges parts) :
    List.Forall₂ (g.RootJoin p t) (edges.filter (g.joinsRoot p)) (parts.map (joinClause t)) := by
  have hplain : ∀ i, p.isPlain i = decide (i ∈ p.plain) := fun i => by
    rw [Bool.eq_iff_iff, (hp.lookup i).1, decide_eq_true_eq]
  have harray : ∀ i, p.isAggregation i = decide (i ∈ p.aggregations) := fun i => by
    rw [Bool.eq_iff_iff, (hp.lookup i).2.1, decide_eq_true_eq]
  induction h with
  | nil => exact .nil
  | @join _ _ e _ _ _ hmem hclause _ _ ih =>
    rw [List.filter_cons_of_pos (by simp [Graph.joinsRoot, hplain, hmem])]
    exact .cons (.table hmem hclause (Edge.source_of_join hclause)) ih
  | @array _ _ e _ _ _ hnot hmem hlevel _ _ ih =>
    rw [List.filter_cons_of_pos
      (by simp [Graph.joinsRoot, harray, hmem, hlevel, Except.toOption])]
    exact .cons (.derived hmem hlevel) ih
  | @silent _ e _ _ hnot hmem hlevel _ ih =>
    rw [List.filter_cons_of_neg (by simp [Graph.joinsRoot, hplain, hnot, hlevel, Except.toOption])]
    exact ih
  | @inside _ e _ _ hnot hnot' _ ih =>
    rw [List.filter_cons_of_neg (by simp [Graph.joinsRoot, hplain, harray, hnot, hnot'])]
    exact ih

/-- The relations of a query are the aliases of its derived tables. -/
lemma Gathers.relations_eq (t : Target) (h : Gathers root g p taken edges parts) :
    parts.filterMap relation? =
      (parts.map (joinClause t)).filterMap fun clause => clause.source.derivedName? := by
  induction h with
  | nil => rfl
  | join _ hclause _ _ ih =>
    rw [List.map_cons, List.filterMap_cons, List.filterMap_cons, ih]
    simp only [relation?, joinClause, Edge.source_of_join hclause, JoinSource.derivedName?]
  | array _ _ _ _ _ ih =>
    rw [List.map_cons, List.filterMap_cons, List.filterMap_cons, ih]
    rfl
  | silent _ _ _ _ ih => exact ih
  | inside _ _ _ ih => exact ih

end Plan

/-- **One place for every edge**: a declared graph's edges are divided between the joins of the
root, the arrays of the root and the insides of these arrays. Every query compiled from the graph
joins to the root, in the order of declaration, one table for each edge of the first kind and one
derived table for each array that holds anything; its relations are these derived tables. -/
theorem Script.assigned_once (script : Script) (schema : Schema) (entity : Entity) :
    let g := (script.declare schema entity).graph
    let p := Placement.ofGraph g
    p.Assigns g ∧ ∀ root criteria t query, g.compile root criteria t = .ok query →
      ∃ plan, Plan.ofGraph root g criteria = .ok plan ∧ query = plan.compile t ∧
        List.Forall₂ (g.RootJoin p t) (g.edges.toList.filter (g.joinsRoot p))
          (plan.select t).joins ∧
        query.relations =
          (plan.select t).joins.filterMap fun clause => clause.source.derivedName? := by
  intro g p
  have hassigns := Placement.assigns_ofGraph (script.wellFormed_declare schema entity)
  refine ⟨hassigns, fun root criteria t query hquery => ?_⟩
  obtain ⟨plan, hplan, rfl⟩ := Graph.compile_eq_ok_iff.mp hquery
  obtain ⟨-, -, hgathers⟩ := Plan.gathers_of_ofGraph hplan
  exact ⟨plan, hplan, rfl, hgathers.rootJoins t hassigns, hgathers.relations_eq t⟩

/-- The comments of a post are one array, which holds what is declared from them. -/
theorem Script.assigned_thread :
    let p := Placement.ofGraph .ofThread
    p.Assigns .ofThread ∧ p = { aggregations := [0], consumed := [1, 2, 3] } := by
  intro p
  exact ⟨(thread.assigned_once .unrelated (Schema.unrelated.entity "post")).1, by decide⟩

end RelationQuery
