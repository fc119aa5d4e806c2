import RelationQuery.Proofs.Query.Acceptance

/-!
The form of joins. A cross join has nothing to tie its rows by; every other join needs something. An
edge that is joined drops its conditions if it is a cross join. An array that is joined to the root
is always tied by its key, whatever the kind of its edge, and there nothing is dropped.
-/

namespace RelationQuery

/-- Cross joins are not tied, and other joins are tied by something. -/
def JoinClause.IsProper (j : JoinClause) : Prop :=
  match j.tie with
  | .free => j.kind = .cross
  | .conditions terms => j.kind ≠ .cross ∧ terms ≠ []
  | .shared column => j.kind ≠ .cross ∧ column ≠ ""

/-- What an edge is joined as is proper. -/
lemma Edge.isProper_of_join {e : Edge} {clause : JoinClause} (h : e.join = .ok clause) :
    clause.IsProper := by
  unfold join at h
  split at h
  · rename_i hcross
    cases h
    exact hcross
  rename_i hcross
  split at h
  · cases h
  · cases h
  · rename_i terms hne _
    cases h
    exact ⟨hcross, by simpa using hne⟩
  · split at h
    · cases h
    · rename_i hne
      cases h
      exact ⟨hcross, by simpa using hne⟩

/-- The joins of a level are those of edges, so they are proper. -/
lemma Outline.isProper_of_emitsAs {o : Outline} {L : Level} (h : o.EmitsAs L) :
    ∀ clause ∈ L.joins, clause.IsProper := by
  have hjoins := h.joins
  generalize o.members = members at hjoins
  generalize L.joins = joins at hjoins
  induction members generalizing joins with
  | nil =>
    simp only [List.mapM_nil, pure, Except.pure, Except.ok.injEq] at hjoins
    simp [← hjoins]
  | cons e rest ih =>
    obtain ⟨clause, others, hclause, hothers, rfl⟩ := mapM_cons_eq_ok hjoins
    rw [List.forall_mem_cons]
    exact ⟨Edge.isProper_of_join hclause, ih others hothers⟩

/-- An array is tied to the root by its key, which is proper but for cross joins. -/
lemma Level.isProper_joinClause (l : Level) (t : Target) :
    (l.joinClause t).IsProper ↔ l.kind ≠ .cross := by
  simp [joinClause, JoinClause.IsProper]

namespace Plan

variable {root : Entity} {g : Graph} {criteria : Criteria} {plan : Plan} {taken : List String}
  {edges : List Edge} {parts : List Part}

/-- The levels of an array have proper joins, down to the deepest. -/
lemma joins_of_levels (wf : g.WellFormed) (h : ofGraph root g criteria = .ok plan) {level : Level}
    (hlevel : .aggregation level ∈ plan.parts) :
    ∀ l ∈ level.flatten, ∀ clause ∈ l.joins, clause.IsProper := by
  obtain ⟨-, -, hgathers⟩ := gathers_of_ofGraph h
  obtain ⟨e, -, harray, hown⟩ := hgathers.exists_level hlevel
  obtain ⟨start, hstart, -, -⟩ := (Placement.mem_aggregations wf).mp harray
  rw [Graph.level, hstart] at hown
  have hflatten := Outline.flatten_emitted hown
  rw [Option.toList_some, List.flatMap_singleton] at hflatten
  intro l hl
  obtain ⟨o, ho, hemitted⟩ := List.mem_filterMap.mp (hflatten ▸ hl)
  exact Outline.isProper_of_emitsAs (Outline.emitsAs_of_emitted hown ho hemitted)

/-- The other joins of the root are those of edges. -/
lemma Gathers.exists_join {p : Placement} (h : Gathers root g p taken edges parts)
    {clause : JoinClause} {items : List SelectItem} (hjoin : .join clause items ∈ parts) :
    ∃ e ∈ edges, e.join = .ok clause := by
  induction h with
  | nil => cases hjoin
  | @join _ _ e _ _ _ _ hclause _ _ ih =>
    rcases List.mem_cons.mp hjoin with hsame | hbehind
    · cases hsame
      exact ⟨e, List.mem_cons_self, hclause⟩
    · obtain ⟨k, hk, hspec⟩ := ih hbehind
      exact ⟨k, List.mem_cons_of_mem _ hk, hspec⟩
  | array _ _ _ _ _ ih =>
    obtain ⟨k, hk, hspec⟩ := ih ((List.mem_cons.mp hjoin).resolve_left (by rintro ⟨⟩))
    exact ⟨k, List.mem_cons_of_mem _ hk, hspec⟩
  | silent _ _ _ _ ih | inside _ _ _ ih =>
    obtain ⟨k, hk, hspec⟩ := ih hjoin
    exact ⟨k, List.mem_cons_of_mem _ hk, hspec⟩

/-- The level that an edge starts is joined as the edge says. -/
lemma level_kind (wf : g.WellFormed) {i : Nat} {e : Edge} (he : g.edge? i = some e)
    (hmany : e.many = true) {L : Level} (h : g.level i = .ok (some L)) : L.kind = e.kind := by
  rw [Graph.level, he] at h
  rw [(Outline.level_spec h).1.kind, (Outline.isRead_ofEdge wf he hmany).1]

/-- The joins of the root are proper but for the arrays of edges that are cross joins. -/
lemma joins_of_root (wf : g.WellFormed) (h : ofGraph root g criteria = .ok plan) (t : Target) :
    (∀ clause ∈ (plan.select t).joins, clause.IsProper) ↔
      ∀ i e, g.edge? i = some e → e.many = true → e.prev = none →
        g.level i ≠ .ok none → e.kind ≠ .cross := by
  obtain ⟨-, -, hgathers⟩ := gathers_of_ofGraph h
  simp only [select, List.forall_mem_map]
  constructor
  · intro hproper i e he hmany hhead hemitted
    have hid := wf.id he
    obtain ⟨result, hlevel, hparts⟩ := hgathers.array_planned (Placement.assigns_ofGraph wf)
      (Placement.mem_edges_of_edge? wf he)
      (by rw [hid]; exact (Placement.mem_aggregations wf).mpr ⟨e, he, hmany, hhead⟩)
    rw [hid] at hlevel
    cases result with
    | none => exact absurd hlevel hemitted
    | some L =>
      have hjoined := hproper _ (hparts L rfl)
      rw [joinClause, Level.isProper_joinClause, level_kind wf he hmany hlevel] at hjoined
      exact hjoined
  · rintro hkinds (⟨clause, items⟩ | level) hpart
    · obtain ⟨e, -, hclause⟩ := hgathers.exists_join hpart
      exact Edge.isProper_of_join hclause
    · obtain ⟨e, -, harray, hlevel⟩ := hgathers.exists_level hpart
      obtain ⟨k, hk, hmany, hhead⟩ := (Placement.mem_aggregations wf).mp harray
      rw [joinClause, Level.isProper_joinClause, level_kind wf hk hmany hlevel]
      exact hkinds _ k hk hmany hhead (by simp [hlevel])

end Plan

/-- **The form of joins**: in a query that is compiled, the joins of all levels are proper: cross
joins are not tied, and the others are tied by a condition or a shared column. The joins of the root
are so exactly if no to-many edge that starts an array of the root is a cross join. -/
theorem Script.joins_proper_iff (script : Script) (schema : Schema) (entity root : Entity)
    {criteria : Criteria} {plan : Plan}
    (h : Plan.ofGraph root (script.declare schema entity).graph criteria = .ok plan) (t : Target) :
    let g := (script.declare schema entity).graph
    (∀ level, .aggregation level ∈ plan.parts →
      ∀ l ∈ level.flatten, ∀ clause ∈ l.joins, clause.IsProper) ∧
    ((∀ clause ∈ (plan.select t).joins, clause.IsProper) ↔
      ∀ i e, g.edge? i = some e → e.many = true → e.prev = none →
        g.level i ≠ .ok none → e.kind ≠ .cross) := by
  have wf := script.wellFormed_declare schema entity
  exact ⟨fun _ hlevel => Plan.joins_of_levels wf h hlevel, Plan.joins_of_root wf h t⟩

theorem Script.joins_of_thread : ∃ plan,
    Plan.ofGraph (Schema.unrelated.entity "post") .ofThread {} = .ok plan ∧
      ∀ t, (plan.select t).joins ≠ [] ∧ ∀ clause ∈ (plan.select t).joins, clause.IsProper := by
  obtain ⟨plan, hplan, hparts⟩ : ∃ plan,
      Plan.ofGraph (Schema.unrelated.entity "post") .ofThread {} = .ok plan ∧ plan.parts ≠ [] :=
    ⟨_, rfl, List.cons_ne_nil _ _⟩
  have hkinds : ∀ e ∈ Graph.ofThread.edges.toList, e.kind ≠ .cross := by decide
  refine ⟨plan, hplan, fun t => ⟨by simpa [Plan.select] using hparts, ?_⟩⟩
  refine (thread.joins_proper_iff .unrelated (Schema.unrelated.entity "post")
    (Schema.unrelated.entity "post") hplan t).2.mpr fun i e he _ _ _ => hkinds e ?_
  exact Placement.mem_edges_of_edge? (thread.wellFormed_declare _ _) he

/-- Comments are made a cross join, which takes their condition away, and are given it again. -/
def Script.crossed : Script :=
  .unkeyed (.relate (.many "comment")
    [.kind .cross, .condition ⟨"id", .eq, "post_id"⟩, .columns [.column "body"]] .done .done)

/-- The array of the comments is joined by a cross join with a condition. -/
theorem Script.crossed_improper : ∃ plan,
    Plan.ofGraph (Schema.unrelated.entity "post")
      (crossed.declare .unrelated (Schema.unrelated.entity "post")).graph {} = .ok plan ∧
    ∀ t, ∃ clause ∈ (plan.select t).joins, clause.kind = .cross ∧ clause.tie.terms ≠ [] ∧
      ¬ clause.IsProper :=
  ⟨_, rfl, fun _ => ⟨_, List.mem_cons_self, rfl, List.cons_ne_nil _ _, fun h => h.1 rfl⟩⟩

end RelationQuery
