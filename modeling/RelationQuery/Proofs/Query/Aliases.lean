import RelationQuery.Proofs.Query.Acceptance
import RelationQuery.Proofs.Query.Scope

/-!
The aliases of the root query. An array stands in a derived table under the array's name, next to
the tables that plain edges bring in under their own aliases. The arrays' names are distinct, but
nothing keeps them apart from the other aliases, nor from the key that the array is compared by.
-/

namespace RelationQuery

namespace Plan

/-- The names of a query's derived tables denote one table and, within it, one column each. -/
structure Unambiguous (plan : Plan) (t : Target) : Prop where
  /-- the alias of a derived table belongs to no other table -/
  tables : ∀ name ∈ (plan.select t).joins.filterMap fun clause => clause.source.derivedName?,
    (plan.select t).scope.count name = 1
  /-- the columns of a derived table have different names -/
  columns : ∀ level, .aggregation level ∈ plan.parts →
    ((level.derivedSelect ((level.object t).aggregate t)).items.map SelectItem.resultName).Nodup

/-- The alias of the table that a part joins, unless it is a derived one. -/
def tableName? : Part → Option String
  | .join clause _ => some clause.source.exposed
  | .aggregation _ => none

variable {root : Entity} {g : Graph} {p : Placement} {criteria : Criteria} {plan : Plan}
  {taken : List String} {edges : List Edge} {parts : List Part} {level : Level} {t : Target}

/-- The tables of the joins are those of the plain edges and the derived ones. -/
lemma count_exposed (name : String) :
    (parts.map fun part => (joinClause t part).source.exposed).count name =
      (parts.filterMap tableName?).count name + (parts.filterMap relation?).count name := by
  induction parts with
  | nil => rfl
  | cons part rest ih =>
    rw [List.map_cons, List.count_cons, ih]
    cases part with
    | join clause items =>
      rw [List.filterMap_cons_some (f := tableName?) rfl,
        List.filterMap_cons_none (f := relation?) rfl, List.count_cons]
      exact Nat.add_right_comm ..
    | aggregation level =>
      rw [List.filterMap_cons_none (f := tableName?) rfl,
        List.filterMap_cons_some (f := relation?) rfl, List.count_cons]
      exact Nat.add_assoc ..

lemma Gathers.tableNames (h : Gathers root g p taken edges parts) :
    parts.filterMap tableName? =
      (edges.filter fun e => decide (e.id ∈ p.plain)).map fun e => e.target.exposed := by
  induction h with
  | nil => rfl
  | join hplain hclause _ _ ih =>
    rw [List.filter_cons_of_pos (by simpa using hplain), List.map_cons, ← ih,
      List.filterMap_cons_some (f := tableName?) rfl, Edge.source_of_join hclause,
      JoinSource.exposed]
  | array hnot _ _ _ _ ih =>
    rw [List.filter_cons_of_neg (by simpa using hnot), ← ih,
      List.filterMap_cons_none (f := tableName?) rfl]
  | silent hnot _ _ _ ih | inside hnot _ _ ih =>
    rw [List.filter_cons_of_neg (by simpa using hnot), ih]

/-- Arrays have distinct names, since these are keys of the root's records. -/
lemma relations_nodup (h : ofGraph root g criteria = .ok plan) :
    (plan.parts.filterMap relation?).Nodup := by
  obtain ⟨-, -, hgathers⟩ := gathers_of_ofGraph h
  have hkeys : ((plan.parts.flatMap partColumns).map (recordKey root)).Nodup := hgathers.keys.1
  have hsub : ((plan.parts.filterMap relation?).map root.fieldCase.apply).Sublist
      ((plan.parts.flatMap partColumns).map (recordKey root)) := by
    clear h hgathers hkeys
    induction plan.parts with
    | nil => exact .slnil
    | cons part rest ih =>
      rw [List.flatMap_cons, List.map_append]
      cases part with
      | join clause items =>
        rw [List.filterMap_cons_none (f := relation?) rfl]
        exact ih.trans (List.sublist_append_right ..)
      | aggregation level =>
        rw [List.filterMap_cons_some (f := relation?) rfl, List.map_cons]
        exact ih.cons_cons _
  exact (hkeys.sublist hsub).of_map _

lemma columns_nodup_iff (level : Level) (aggregate : String) :
    ((level.derivedSelect aggregate).items.map SelectItem.resultName).Nodup ↔
      level.name ≠ level.correlation.inner.name := by
  simp [Level.derivedSelect, SelectItem.resultName, eq_comm]

/-- The alias of an array is its own where neither the root nor a plain edge has it. -/
lemma count_scope_iff (h : ofGraph root g criteria = .ok plan)
    (hlevel : .aggregation level ∈ plan.parts) :
    (plan.select t).scope.count level.name = 1 ↔
      level.name ≠ root.tableRef.exposed ∧ level.name ∉ plan.parts.filterMap tableName? := by
  have hroot : (plan.select t).source = root.tableRef := by
    rw [select, (gathers_of_ofGraph h).1]
  have hown : (plan.parts.filterMap relation?).count level.name = 1 :=
    List.count_eq_one_of_mem (relations_nodup h) (List.mem_filterMap.mpr ⟨_, hlevel, rfl⟩)
  have hjoins : (plan.select t).joins.map (·.source.exposed) =
      plan.parts.map fun part => (joinClause t part).source.exposed := by
    simp [select]
  rw [Select.scope, hroot, hjoins, List.count_cons, count_exposed, hown, ← List.count_eq_zero]
  by_cases hsame : root.tableRef.exposed = level.name
  · simp [hsame]
  · simp [hsame, Ne.symm hsame]

end Plan

/-- The array of an edge has a name that nothing next to it in the root query has. -/
structure Graph.Apart (g : Graph) (root : Table) (e : Edge) : Prop where
  root : (Outline.ofEdge g e).title ≠ root.exposed
  tables : ∀ f ∈ g.edges.toList, f.isPlain = true → (Outline.ofEdge g e).title ≠ f.target.exposed
  key : ∀ c, e.correlation = .ok c → (Outline.ofEdge g e).title ≠ c.inner.name

namespace Plan

variable {root : Entity} {g : Graph} {criteria : Criteria} {plan : Plan} {level : Level}
  {t : Target}

lemma mem_tableNames_iff (wf : g.WellFormed) (h : ofGraph root g criteria = .ok plan)
    {name : String} : name ∈ plan.parts.filterMap tableName? ↔
      ∃ f ∈ g.edges.toList, f.isPlain = true ∧ f.target.exposed = name := by
  have hplain : ∀ f ∈ g.edges.toList, f.id ∈ (Placement.ofGraph g).plain ↔ f.isPlain = true := by
    intro f hf
    rw [Placement.mem_plain wf, edges_known wf f hf]
    simp [Edge.isPlain]
  rw [(gathers_of_ofGraph h).2.2.tableNames]
  simp only [List.mem_map, List.mem_filter, decide_eq_true_eq]
  constructor
  · rintro ⟨f, ⟨hf, hmem⟩, rfl⟩
    exact ⟨f, hf, (hplain f hf).mp hmem, rfl⟩
  · rintro ⟨f, hf, hown, rfl⟩
    exact ⟨f, ⟨hf, (hplain f hf).mpr hown⟩, rfl⟩

/-- What makes the names of one array clear. -/
lemma apart_iff (wf : g.WellFormed) (h : ofGraph root g criteria = .ok plan) {e : Edge}
    (he : g.edge? e.id = some e) (hmany : e.many = true)
    (hown : g.level e.id = .ok (some level)) (hlevel : .aggregation level ∈ plan.parts) :
    g.Apart root.tableRef e ↔ (plan.select t).scope.count level.name = 1 ∧
      level.name ≠ level.correlation.inner.name := by
  have hcorrelation := level_correlation wf he hmany hown
  have htitle : (Outline.ofEdge g e).title = level.name :=
    (Outline.title_of_level (Graph.level_eq he ▸ hown)).2.symm
  rw [count_scope_iff h hlevel, mem_tableNames_iff wf h]
  constructor
  · rintro ⟨hroot, htables, hkey⟩
    rw [htitle] at hroot htables hkey
    refine ⟨⟨hroot, ?_⟩, hkey _ hcorrelation⟩
    rintro ⟨f, hf, hplain, hname⟩
    exact htables f hf hplain hname.symm
  · rintro ⟨⟨hroot, htables⟩, hkey⟩
    refine ⟨htitle ▸ hroot, fun f hf hplain hname => ?_, fun c hc => ?_⟩
    · exact htables ⟨f, hf, hplain, htitle ▸ hname.symm⟩
    · rw [hcorrelation] at hc
      cases hc
      rwa [htitle]

lemma unambiguous_iff_apart (wf : g.WellFormed) (h : ofGraph root g criteria = .ok plan) :
    plan.Unambiguous t ↔ ∀ e ∈ g.edges.toList, e.isAggregation = true →
      (Outline.ofEdge g e).silent = false → g.Apart root.tableRef e := by
  obtain ⟨-, -, hgathers⟩ := gathers_of_ofGraph h
  have harray : ∀ e ∈ g.edges.toList,
      e.id ∈ (Placement.ofGraph g).aggregations ↔ e.isAggregation = true := by
    intro e he
    rw [Placement.mem_aggregations wf, edges_known wf e he]
    simp [Edge.isAggregation]
  constructor
  · rintro ⟨htables, hcolumns⟩ e he hown hspeaks
    have hedge := edges_known wf e he
    obtain ⟨result, hlevel, hparts⟩ := hgathers.array_planned (Placement.assigns_ofGraph wf) he
      ((harray e he).mpr hown)
    -- an edge without a level would be left out
    obtain ⟨level, rfl⟩ : ∃ level, result = some level := by
      cases result with
      | some level => exact ⟨level, rfl⟩
      | none =>
        rw [Outline.silent_of_level (Graph.level_eq hedge ▸ hlevel)] at hspeaks
        cases hspeaks
    have hpart := hparts level rfl
    rw [Edge.isAggregation, Bool.and_eq_true] at hown
    refine (apart_iff wf h hedge hown.1 hlevel hpart (t := t)).mpr ⟨htables _ ?_, ?_⟩
    · rw [select, ← hgathers.relations_eq t]
      exact List.mem_filterMap.mpr ⟨_, hpart, rfl⟩
    · exact (columns_nodup_iff level _).mp (hcolumns level hpart)
  · intro hapart
    have hclear : ∀ level, .aggregation level ∈ plan.parts →
        (plan.select t).scope.count level.name = 1 ∧
          level.name ≠ level.correlation.inner.name := by
      intro level hlevel
      obtain ⟨e, he, hmem, hown⟩ := hgathers.exists_level hlevel
      have hedge := edges_known wf e he
      have hplace := (harray e he).mp hmem
      have hspeaks := (Outline.title_of_level (Graph.level_eq hedge ▸ hown)).1
      have hmany : e.many = true := by
        rw [Edge.isAggregation, Bool.and_eq_true] at hplace
        exact hplace.1
      exact (apart_iff wf h hedge hmany hown hlevel).mp (hapart e he hplace hspeaks)
    refine ⟨fun name hname => ?_, fun level hlevel => ?_⟩
    · rw [select, ← hgathers.relations_eq t] at hname
      obtain ⟨part, hpart, hrelation⟩ := List.mem_filterMap.mp hname
      cases part with
      | join => cases hrelation
      | aggregation level =>
        cases hrelation
        exact (hclear level hpart).1
    · exact (columns_nodup_iff level _).mpr (hclear level hlevel).2

end Plan

/-- **Aliases of arrays**: in every plan the arrays have distinct names. All the names of its
derived tables are unambiguous exactly if no array that is not left out has the name of the root,
of a plain edge's table, or of its own key. -/
theorem Script.unambiguous_iff (script : Script) (schema : Schema) (entity root : Entity)
    (criteria : Criteria) (t : Target) {plan : Plan}
    (hplan : Plan.ofGraph root (script.declare schema entity).graph criteria = .ok plan) :
    let g := (script.declare schema entity).graph
    (plan.parts.filterMap Plan.relation?).Nodup ∧
      (plan.Unambiguous t ↔ ∀ e ∈ g.edges.toList, e.isAggregation = true →
        (Outline.ofEdge g e).silent = false → g.Apart root.tableRef e) :=
  ⟨Plan.relations_nodup hplan,
    Plan.unambiguous_iff_apart (script.wellFormed_declare schema entity) hplan⟩

theorem Script.thread_unambiguous : ∃ plan,
    Plan.ofGraph (Schema.unrelated.entity "post") .ofThread {} = .ok plan ∧
      plan.parts.filterMap Plan.relation? = ["comments"] ∧
        plan.Unambiguous (.ofDialect .sqlite) := by
  obtain ⟨plan, hplan, hrelations⟩ : ∃ plan,
      Plan.ofGraph (Schema.unrelated.entity "post") .ofThread {} = .ok plan ∧
        plan.parts.filterMap Plan.relation? = ["comments"] := ⟨_, rfl, rfl⟩
  refine ⟨plan, hplan, hrelations, ?_⟩
  have hiff := thread.unambiguous_iff .unrelated (Schema.unrelated.entity "post") _ {}
    (.ofDialect .sqlite) hplan
  refine hiff.2.mpr fun e he hown _ => ?_
  have hfirst : ∀ e ∈ Graph.ofThread.edges.toList, e.isAggregation = true →
      Graph.ofThread.edge? 0 = some e := by decide
  have hhead : Graph.ofThread.edge? 0 = some _ := rfl
  obtain rfl := Option.some.inj (hhead.symm.trans (hfirst e he hown))
  exact ⟨by decide, by decide, fun c hc => by cases hc; decide⟩

/-- The posts of a user, joined once by their table's name and once as an array. -/
def Script.postsTwice : Script :=
  .relate (.join .inner ⟨"posts", "posts"⟩) [.columns [.column "slug"]] .done
    (.relate (.many "post") [.columns [.column "title"]] .done .done)

theorem Script.posts_ambiguous : ∃ plan,
    Plan.ofGraph (Schema.unrelated.entity "user")
        (postsTwice.declare .unrelated (Schema.unrelated.entity "user")).graph {} = .ok plan ∧
      ¬ plan.Unambiguous (.ofDialect .sqlite) := by
  refine ⟨_, rfl, fun h => ?_⟩
  have := h.tables "posts" (by decide)
  revert this
  decide

end RelationQuery
