import RelationQuery.Proofs.Members
import RelationQuery.Query.Plan

/-!
How the parts of a plan come about, edge by edge: from each edge of the graph comes a join, an
array, or nothing, and the keys of what comes are taken before the next edge is read.
-/

namespace RelationQuery

/-- Queries are compiled from plans, and from nothing else. -/
lemma Graph.compile_eq_ok_iff {g : Graph} {root : Entity} {criteria : Criteria} {t : Target}
    {query : CompiledQuery} : g.compile root criteria t = .ok query ↔
      ∃ plan, Plan.ofGraph root g criteria = .ok plan ∧ query = plan.compile t := by
  unfold Graph.compile
  cases Plan.ofGraph root g criteria <;> simp [Except.map, eq_comm]

lemma Graph.compile_eq_error_iff {g : Graph} {root : Entity} {criteria : Criteria} {t : Target}
    {error : CompileError} : g.compile root criteria t = .error error ↔
      Plan.ofGraph root g criteria = .error error := by
  unfold Graph.compile
  cases Plan.ofGraph root g criteria <;> simp [Except.map]

namespace Plan

/-- `parts` come from `edges` where the keys `taken` are in use before. -/
inductive Gathers (root : Entity) (g : Graph) (p : Placement) :
    List String → List Edge → List Part → Prop
  | nil {taken : List String} : Gathers root g p taken [] []
  | join {taken next : List String} {e : Edge} {rest : List Edge} {parts : List Part}
      {clause : JoinClause} (hplain : e.id ∈ p.plain) (hclause : e.join = .ok clause)
      (hkeys : takeKeys root taken (e.columns.map Selection.outputName) = .ok next)
      (h : Gathers root g p next rest parts) :
      Gathers root g p taken (e :: rest)
        (.join clause (e.columns.map (Selection.item e.target.asName)) :: parts)
  | array {taken next : List String} {e : Edge} {rest : List Edge} {parts : List Part}
      {level : Level} (hplain : e.id ∉ p.plain) (harray : e.id ∈ p.aggregations)
      (hlevel : g.level e.id = .ok (some level))
      (hkeys : takeKeys root taken [level.name] = .ok next)
      (h : Gathers root g p next rest parts) :
      Gathers root g p taken (e :: rest) (.aggregation level :: parts)
  | silent {taken : List String} {e : Edge} {rest : List Edge} {parts : List Part}
      (hplain : e.id ∉ p.plain) (harray : e.id ∈ p.aggregations)
      (hlevel : g.level e.id = .ok none) (h : Gathers root g p taken rest parts) :
      Gathers root g p taken (e :: rest) parts
  | inside {taken : List String} {e : Edge} {rest : List Edge} {parts : List Part}
      (hplain : e.id ∉ p.plain) (harray : e.id ∉ p.aggregations)
      (h : Gathers root g p taken rest parts) : Gathers root g p taken (e :: rest) parts

/-- Everything that gathering can come to: parts, as above, or the error of the first edge that
cannot be joined or emitted or whose names are taken. -/
inductive Yields (root : Entity) (g : Graph) (p : Placement) :
    List String → List Edge → Except CompileError (List Part) → Prop
  | nil {taken : List String} : Yields root g p taken [] (.ok [])
  | untied {taken : List String} {e : Edge} {rest : List Edge} {error : CompileError}
      (hplain : e.id ∈ p.plain) (hclause : e.join = .error error) :
      Yields root g p taken (e :: rest) (.error error)
  | columnTaken {taken : List String} {e : Edge} {rest : List Edge} {error : CompileError}
      (hplain : e.id ∈ p.plain)
      (hkeys : takeKeys root taken (e.columns.map Selection.outputName) = .error error) :
      Yields root g p taken (e :: rest) (.error error)
  | join {taken next : List String} {e : Edge} {rest : List Edge} {clause : JoinClause}
      {result : Except CompileError (List Part)} (hplain : e.id ∈ p.plain)
      (hclause : e.join = .ok clause)
      (hkeys : takeKeys root taken (e.columns.map Selection.outputName) = .ok next)
      (h : Yields root g p next rest result) :
      Yields root g p taken (e :: rest)
        (result.map (.join clause (e.columns.map (Selection.item e.target.asName)) :: ·))
  | broken {taken : List String} {e : Edge} {rest : List Edge} {error : CompileError}
      (hplain : e.id ∉ p.plain) (harray : e.id ∈ p.aggregations)
      (hlevel : g.level e.id = .error error) : Yields root g p taken (e :: rest) (.error error)
  | nameTaken {taken : List String} {e : Edge} {rest : List Edge} {level : Level}
      {error : CompileError} (hplain : e.id ∉ p.plain) (harray : e.id ∈ p.aggregations)
      (hlevel : g.level e.id = .ok (some level))
      (hkeys : takeKeys root taken [level.name] = .error error) :
      Yields root g p taken (e :: rest) (.error error)
  | array {taken next : List String} {e : Edge} {rest : List Edge} {level : Level}
      {result : Except CompileError (List Part)} (hplain : e.id ∉ p.plain)
      (harray : e.id ∈ p.aggregations) (hlevel : g.level e.id = .ok (some level))
      (hkeys : takeKeys root taken [level.name] = .ok next)
      (h : Yields root g p next rest result) :
      Yields root g p taken (e :: rest) (result.map (.aggregation level :: ·))
  | silent {taken : List String} {e : Edge} {rest : List Edge}
      {result : Except CompileError (List Part)} (hplain : e.id ∉ p.plain)
      (harray : e.id ∈ p.aggregations) (hlevel : g.level e.id = .ok none)
      (h : Yields root g p taken rest result) : Yields root g p taken (e :: rest) result
  | inside {taken : List String} {e : Edge} {rest : List Edge}
      {result : Except CompileError (List Part)} (hplain : e.id ∉ p.plain)
      (harray : e.id ∉ p.aggregations) (h : Yields root g p taken rest result) :
      Yields root g p taken (e :: rest) result

variable {root : Entity} {g : Graph} {p : Placement} {taken : List String} {edges : List Edge}
  {parts : List Part}

lemma yields_gather : Yields root g p taken edges (gather root g p taken edges) := by
  induction edges generalizing taken with
  | nil => exact .nil
  | cons e rest ih =>
    rw [gather]
    simp only [bind, Except.bind, pure, Except.pure]
    split
    · rename_i hplain
      simp only [List.contains_iff_mem] at hplain
      cases hclause : e.join with
      | error error => exact .untied hplain hclause
      | ok clause =>
        dsimp only
        cases hkeys : takeKeys root taken (e.columns.map Selection.outputName) with
        | error error => exact .columnTaken hplain hkeys
        | ok next => exact .join hplain hclause hkeys ih
    rename_i hplain
    simp only [List.contains_iff_mem] at hplain
    split
    · rename_i harray
      simp only [List.contains_iff_mem] at harray
      cases hlevel : g.level e.id with
      | error error => exact .broken hplain harray hlevel
      | ok result =>
        cases result with
        | none => exact .silent hplain harray hlevel ih
        | some level =>
          dsimp only
          cases hkeys : takeKeys root taken [level.name] with
          | error error => exact .nameTaken hplain harray hlevel hkeys
          | ok next => exact .array hplain harray hlevel hkeys ih
    · rename_i harray
      simp only [List.contains_iff_mem] at harray
      exact .inside hplain harray ih

/-- Parts come about in no other way. -/
lemma gathers_of_yields {result : Except CompileError (List Part)}
    (h : Yields root g p taken edges result) (hok : result = .ok parts) :
    Gathers root g p taken edges parts := by
  induction h generalizing parts with
  | nil =>
    cases hok
    exact .nil
  | untied | columnTaken | broken | nameTaken => cases hok
  | @join _ _ _ _ _ r hplain hclause hkeys _ ih =>
    cases r with
    | error error => cases hok
    | ok others =>
      cases hok
      exact .join hplain hclause hkeys (ih rfl)
  | @array _ _ _ _ _ r hplain harray hlevel hkeys _ ih =>
    cases r with
    | error error => cases hok
    | ok others =>
      cases hok
      exact .array hplain harray hlevel hkeys (ih rfl)
  | silent hplain harray hlevel _ ih => exact .silent hplain harray hlevel (ih hok)
  | inside hplain harray _ ih => exact .inside hplain harray (ih hok)

lemma gathers_of_ofGraph {criteria : Criteria} {plan : Plan}
    (h : ofGraph root g criteria = .ok plan) :
    plan.root = root ∧ plan.criteria = criteria ∧
      Gathers root g (.ofGraph g) (root.fields.map root.fieldCase.apply) g.edges.toList
        plan.parts := by
  unfold ofGraph at h
  split at h
  · cases h
  simp only [bind, Except.bind, pure, Except.pure] at h
  split at h
  · cases h
  · rename_i parts hparts
    cases h
    exact ⟨rfl, rfl, gathers_of_yields yields_gather hparts⟩

/-- The arrays among the parts are the levels of aggregations. -/
lemma Gathers.exists_level (h : Gathers root g p taken edges parts) {level : Level}
    (hlevel : .aggregation level ∈ parts) :
    ∃ e ∈ edges, e.id ∈ p.aggregations ∧ g.level e.id = .ok (some level) := by
  induction h with
  | nil => cases hlevel
  | @join _ _ e rest _ _ _ _ _ _ ih =>
    obtain ⟨k, hk, hspec⟩ := ih ((List.mem_cons.mp hlevel).resolve_left (by rintro ⟨⟩))
    exact ⟨k, List.mem_cons_of_mem _ hk, hspec⟩
  | @array _ _ e rest _ _ _ harray hown _ _ ih =>
    rcases List.mem_cons.mp hlevel with hsame | hbehind
    · cases hsame
      exact ⟨e, List.mem_cons_self, harray, hown⟩
    · obtain ⟨k, hk, hspec⟩ := ih hbehind
      exact ⟨k, List.mem_cons_of_mem _ hk, hspec⟩
  | silent _ _ _ _ ih | inside _ _ _ ih =>
    obtain ⟨k, hk, hspec⟩ := ih hlevel
    exact ⟨k, List.mem_cons_of_mem _ hk, hspec⟩

/-! ### Taken keys -/

/-- Keys are taken in their order, and none that is taken already. -/
lemma takeKeys_spec {result names : List String} (h : takeKeys root taken names = .ok result) :
    result = taken ++ names.map root.fieldCase.apply ∧
      Keys.Fresh taken (names.map root.fieldCase.apply) := by
  induction names generalizing taken with
  | nil =>
    simp only [takeKeys, Except.ok.injEq] at h
    simp [h]
  | cons name rest ih =>
    simp only [takeKeys] at h
    split at h
    · cases h
    rename_i hfree
    simp only [List.contains_iff_mem] at hfree
    obtain ⟨hresult, hrest⟩ := ih h
    rw [List.map_cons, Keys.fresh_cons]
    exact ⟨by simp [hresult], hfree, hrest⟩

end Plan

end RelationQuery
