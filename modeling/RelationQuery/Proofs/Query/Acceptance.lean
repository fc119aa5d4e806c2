import RelationQuery.Proofs.Aggregation.Acceptance
import RelationQuery.Proofs.Query.Assignment
import RelationQuery.Proofs.Query.RecordKeys
import RelationQuery.Proofs.Relation.Linear

/-!
Which graphs are accepted. What a query asks of a graph can be read off the graph itself: nothing
was cut off, the level of every to-many edge is sound, every edge joined to the root can be joined,
and the record keys that the edges ask for are fresh. A graph is compiled exactly if all of this is
so; any other is refused for a fault that it has.
-/

namespace RelationQuery

namespace Graph

/-- The names that an edge asks a place in the root's records for. -/
def namesOf (g : Graph) (p : Placement) (e : Edge) : List String :=
  if e.id ∈ p.plain then e.columns.map Selection.outputName
  else if e.id ∈ p.aggregations then Outline.titles [Outline.ofEdge g e]
  else []

/-- The names that come into the root's records from a graph. -/
def recordNames (g : Graph) : List String := g.edges.toList.flatMap (g.namesOf (.ofGraph g))

/-- What queries for the records of `root` ask of a graph. -/
structure Sound (g : Graph) (root : Entity) : Prop where
  /-- no relations were left out for being too deep -/
  complete : g.overflowed = []
  levels : ∀ i e, g.edge? i = some e → e.many = true → (Outline.ofEdge g e).Sound
  joins : ∀ i e, g.edge? i = some e → e.many = false → e.prev = none → e.Joins
  keys : Keys.Fresh (root.fields.map root.fieldCase.apply)
    (g.recordNames.map root.fieldCase.apply)

/-- The errors that a graph may be refused with, each where it breaks one of the demands. -/
inductive Fault (g : Graph) (root : Entity) : CompileError → Prop
  | tooDeep {i : Nat} (h : i ∈ g.overflowed) :
      Fault g root (.unresolvable (((g.edge? i).map (·.target.name)).getD "") .tooDeep)
  | level {i : Nat} {e : Edge} {error : CompileError} (he : g.edge? i = some e)
      (hmany : e.many = true) (h : (Outline.ofEdge g e).Breach error) : Fault g root error
  | untied {i : Nat} {e : Edge} (he : g.edge? i = some e) (hmany : e.many = false)
      (hprev : e.prev = none) (h : ¬ e.Joins) : Fault g root e.untied
  | clash {key : String} (h : Keys.Clashes (root.fields.map root.fieldCase.apply)
      (g.recordNames.map root.fieldCase.apply) key) :
      Fault g root (.duplicateKey key root.table)

lemma Fault.not_sound {g : Graph} {root : Entity} {error : CompileError}
    (h : g.Fault root error) : ¬ g.Sound root := by
  intro hsound
  cases h with
  | tooDeep h =>
    rw [hsound.complete] at h
    cases h
  | level he hmany h => exact h.not_sound (hsound.levels _ _ he hmany)
  | untied he hmany hprev h => exact h (hsound.joins _ _ he hmany hprev)
  | clash h => exact h.not_fresh hsound.keys

/-- No fault is that a relation is not to-many or that a bridge has no target. -/
lemma Fault.obstacle_ne {g : Graph} {root : Entity} {table : String} {obstacle : Obstacle}
    (h : g.Fault root (.unresolvable table obstacle)) :
    obstacle ≠ .notMany ∧ obstacle ≠ .bridgeWithoutTarget := by
  generalize herror : CompileError.unresolvable table obstacle = error at h
  cases h with
  | tooDeep h =>
    cases herror
    decide
  | untied he hmany hprev h => cases herror
  | clash h => cases herror
  | level he hmany h =>
    cases h with
    | untied hsilent he h => cases herror
    | clash h => cases herror
    | uncorrelated h =>
      cases herror
      unfold Edge.obstacle
      split <;> decide

lemma level_eq {g : Graph} {i : Nat} {e : Edge} (h : g.edge? i = some e) :
    g.level i = (Outline.ofEdge g e).level := by
  rw [level, h]

section Names

variable {g : Graph} {p : Placement} {e : Edge}

lemma namesOf_plain (hplain : e.id ∈ p.plain) :
    g.namesOf p e = e.columns.map Selection.outputName := by
  rw [namesOf, if_pos hplain]

lemma namesOf_array {level : Level} (he : g.edge? e.id = some e)
    (hplain : e.id ∉ p.plain) (harray : e.id ∈ p.aggregations)
    (hlevel : g.level e.id = .ok (some level)) : g.namesOf p e = [level.name] := by
  rw [level_eq he] at hlevel
  obtain ⟨hspeaks, hname⟩ := Outline.title_of_level hlevel
  rw [namesOf, if_neg hplain, if_pos harray, Outline.titles_cons_of_not_silent hspeaks,
    ← hname]
  rfl

lemma namesOf_silent (he : g.edge? e.id = some e) (hplain : e.id ∉ p.plain)
    (harray : e.id ∈ p.aggregations) (hlevel : g.level e.id = .ok none) :
    g.namesOf p e = [] := by
  rw [level_eq he] at hlevel
  rw [namesOf, if_neg hplain, if_pos harray,
    Outline.titles_cons_of_silent (Outline.silent_of_level hlevel)]
  rfl

lemma namesOf_inside (hplain : e.id ∉ p.plain) (harray : e.id ∉ p.aggregations) :
    g.namesOf p e = [] := by
  rw [namesOf, if_neg hplain, if_neg harray]

end Names

end Graph

namespace Plan

variable {root : Entity} {g : Graph} {p : Placement} {taken : List String} {edges : List Edge}
  {parts : List Part} {error : CompileError}

/-! ### What is planned -/

lemma Gathers.join_ok (h : Gathers root g p taken edges parts) {e : Edge} (he : e ∈ edges)
    (hplain : e.id ∈ p.plain) : ∃ clause, e.join = .ok clause := by
  induction h with
  | nil => cases he
  | join _ hclause _ _ ih =>
    rcases List.mem_cons.mp he with rfl | he
    · exact ⟨_, hclause⟩
    · exact ih he
  | array hnot _ _ _ _ ih | silent hnot _ _ _ ih | inside hnot _ _ ih =>
    rcases List.mem_cons.mp he with rfl | he
    · exact absurd hplain hnot
    · exact ih he

/-- The arrays of a graph are all planned, unless they are left out. -/
lemma Gathers.array_planned (hp : p.Assigns g) (h : Gathers root g p taken edges parts)
    {e : Edge} (he : e ∈ edges) (harray : e.id ∈ p.aggregations) :
    ∃ result, g.level e.id = .ok result ∧ ∀ level ∈ result, .aggregation level ∈ parts := by
  induction h with
  | nil => cases he
  | join hplain _ _ _ ih =>
    rcases List.mem_cons.mp he with rfl | he
    · exact absurd harray (hp.disjoint.1 hplain)
    · obtain ⟨result, hok, hparts⟩ := ih he
      exact ⟨result, hok, fun level hlevel => List.mem_cons_of_mem _ (hparts level hlevel)⟩
  | @array _ _ _ _ _ own _ _ hlevel _ _ ih =>
    rcases List.mem_cons.mp he with rfl | he
    · refine ⟨some own, hlevel, fun level hmem => ?_⟩
      rw [Option.mem_some.mp hmem]
      exact List.mem_cons_self
    · obtain ⟨result, hok, hparts⟩ := ih he
      exact ⟨result, hok, fun level hlevel => List.mem_cons_of_mem _ (hparts level hlevel)⟩
  | silent _ _ hlevel _ ih =>
    rcases List.mem_cons.mp he with rfl | he
    · exact ⟨none, hlevel, fun level hmem => by cases hmem⟩
    · exact ih he
  | inside _ hnot _ ih =>
    rcases List.mem_cons.mp he with rfl | he
    · exact absurd harray hnot
    · exact ih he

/-- The columns of the parts have the names that the edges ask for. -/
lemma Gathers.names_eq (hedges : ∀ e ∈ edges, g.edge? e.id = some e)
    (h : Gathers root g p taken edges parts) :
    (parts.flatMap partColumns).map ResultColumn.name = edges.flatMap (g.namesOf p) := by
  induction h with
  | nil => rfl
  | join hplain _ _ _ ih =>
    rw [List.forall_mem_cons] at hedges
    rw [List.flatMap_cons, List.map_append, List.flatMap_cons, ih hedges.2,
      Graph.namesOf_plain hplain]
    simp [partColumns, resultName_item]
  | array hplain harray hlevel _ _ ih =>
    rw [List.forall_mem_cons] at hedges
    rw [List.flatMap_cons, List.map_append, List.flatMap_cons, ih hedges.2,
      Graph.namesOf_array hedges.1 hplain harray hlevel]
    rfl
  | silent hplain harray hlevel _ ih =>
    rw [List.forall_mem_cons] at hedges
    rw [List.flatMap_cons, ih hedges.2, Graph.namesOf_silent hedges.1 hplain harray hlevel]
    rfl
  | inside hplain harray _ ih =>
    rw [List.forall_mem_cons] at hedges
    rw [List.flatMap_cons, ih hedges.2, Graph.namesOf_inside hplain harray]
    rfl

/-! ### What stops a plan -/

lemma clashes_of_takeKeys {names : List String} (h : takeKeys root taken names = .error error) :
    ∃ key, error = .duplicateKey key root.table ∧
      Keys.Clashes taken (names.map root.fieldCase.apply) key := by
  induction names generalizing taken with
  | nil => cases h
  | cons name rest ih =>
    simp only [takeKeys] at h
    split at h
    · rename_i htaken
      cases h
      exact ⟨_, rfl, Keys.clashes_head (by simpa using htaken)⟩
    · obtain ⟨key, rfl, hclash⟩ := ih h
      rw [List.map_cons, ← List.singleton_append]
      exact ⟨key, rfl, hclash.append_right⟩

/-- What can stop the parts of edges from coming about: an edge that cannot be joined, a level that
cannot be emitted, or a name whose key is taken. -/
def Stops (root : Entity) (g : Graph) (p : Placement) (taken : List String) (edges : List Edge)
    (error : CompileError) : Prop :=
  (∃ e ∈ edges, e.id ∈ p.plain ∧ e.join = .error error) ∨
    (∃ e ∈ edges, e.id ∈ p.aggregations ∧ g.level e.id = .error error) ∨
    ∃ key, error = .duplicateKey key root.table ∧
      Keys.Clashes taken ((edges.flatMap (g.namesOf p)).map root.fieldCase.apply) key

/-- What stops the parts behind an edge, once its own names are taken, stops them all. -/
lemma Stops.behind {next names : List String} {e : Edge} {rest : List Edge}
    (hnames : g.namesOf p e = names) (hkeys : takeKeys root taken names = .ok next)
    (h : Stops root g p next rest error) : Stops root g p taken (e :: rest) error := by
  obtain ⟨rfl, -⟩ := takeKeys_spec hkeys
  refine h.imp ?_ (Or.imp ?_ ?_)
  · exact fun ⟨k, hk, hspec⟩ => ⟨k, List.mem_cons_of_mem _ hk, hspec⟩
  · exact fun ⟨k, hk, hspec⟩ => ⟨k, List.mem_cons_of_mem _ hk, hspec⟩
  · rintro ⟨key, hkey, hclash⟩
    rw [List.flatMap_cons, List.map_append, hnames]
    exact ⟨key, hkey, hclash.append_right⟩

/-- The key of a name that an edge asks for is taken. -/
lemma stops_of_takeKeys {names : List String} {e : Edge} {rest : List Edge}
    (hnames : g.namesOf p e = names) (h : takeKeys root taken names = .error error) :
    Stops root g p taken (e :: rest) error := by
  obtain ⟨key, hkey, hclash⟩ := clashes_of_takeKeys h
  rw [Stops, List.flatMap_cons, List.map_append, hnames]
  exact .inr (.inr ⟨key, hkey, hclash.append_left _⟩)

lemma stops_of_yields (hedges : ∀ e ∈ edges, g.edge? e.id = some e)
    {result : Except CompileError (List Part)} (h : Yields root g p taken edges result)
    (herror : result = .error error) : Stops root g p taken edges error := by
  induction h with
  | nil => cases herror
  | untied hplain hclause =>
    cases herror
    exact .inl ⟨_, List.mem_cons_self, hplain, hclause⟩
  | columnTaken hplain hkeys =>
    cases herror
    exact stops_of_takeKeys (Graph.namesOf_plain hplain) hkeys
  | @join _ _ _ _ _ r hplain _ hkeys _ ih =>
    rw [List.forall_mem_cons] at hedges
    cases r with
    | ok others => cases herror
    | error error' =>
      cases herror
      exact .behind (Graph.namesOf_plain hplain) hkeys (ih hedges.2 rfl)
  | broken _ harray hlevel =>
    cases herror
    exact .inr (.inl ⟨_, List.mem_cons_self, harray, hlevel⟩)
  | nameTaken hplain harray hlevel hkeys =>
    rw [List.forall_mem_cons] at hedges
    cases herror
    exact stops_of_takeKeys (Graph.namesOf_array hedges.1 hplain harray hlevel) hkeys
  | @array _ _ _ _ _ r hplain harray hlevel hkeys _ ih =>
    rw [List.forall_mem_cons] at hedges
    cases r with
    | ok others => cases herror
    | error error' =>
      cases herror
      exact .behind (Graph.namesOf_array hedges.1 hplain harray hlevel) hkeys (ih hedges.2 rfl)
  | silent hplain harray hlevel _ ih =>
    rw [List.forall_mem_cons] at hedges
    exact .behind (Graph.namesOf_silent hedges.1 hplain harray hlevel) rfl (ih hedges.2 herror)
  | inside hplain harray _ ih =>
    rw [List.forall_mem_cons] at hedges
    exact .behind (Graph.namesOf_inside hplain harray) rfl (ih hedges.2 herror)

/-! ### Plans of graphs -/

variable {criteria : Criteria} {plan : Plan}

lemma overflowed_of_ofGraph (h : ofGraph root g criteria = .ok plan) : g.overflowed = [] := by
  unfold ofGraph at h
  split at h
  · cases h
  · rename_i hcomplete
    simpa [overflow?] using hcomplete

section Declared

variable (wf : g.WellFormed)
include wf

lemma edges_known : ∀ e ∈ g.edges.toList, g.edge? e.id = some e :=
  fun _ he => (Placement.mem_edges wf).mp he

/-- In a graph that is planned, the level of every to-many edge can be emitted; if it is not left
out, it is a level of one of the arrays. -/
lemma level_of_ofGraph (h : ofGraph root g criteria = .ok plan) {i : Nat} {e : Edge}
    (he : g.edge? i = some e) (hmany : e.many = true) :
    ∃ result, (Outline.ofEdge g e).level = .ok result ∧
      ∀ l ∈ result, ∃ level, .aggregation level ∈ plan.parts ∧ l ∈ level.flatten := by
  obtain ⟨-, -, hgathers⟩ := gathers_of_ofGraph h
  obtain ⟨k, head, hhead, hheadMany, hprev, hinside⟩ := Outline.exists_ofEdge wf he hmany
  have hid := wf.id hhead
  have harray : head.id ∈ (Placement.ofGraph g).aggregations :=
    (Placement.mem_aggregations wf).mpr ⟨head, by rw [hid, hhead], hheadMany, hprev⟩
  obtain ⟨whole, hwhole, hparts⟩ := hgathers.array_planned (Placement.assigns_ofGraph wf)
    (Placement.mem_edges_of_edge? wf hhead) harray
  rw [hid, Graph.level_eq hhead] at hwhole
  obtain ⟨result, hresult, -⟩ := Outline.level_ok_of_mem_flatten hwhole hinside
  refine ⟨result, hresult, fun l hl => ?_⟩
  have hemitted : (Outline.ofEdge g e).emitted = some l := by
    rw [Outline.emitted_of_level hresult, Option.mem_def.mp hl]
  have hmem : l ∈ whole.toList.flatMap Level.flatten := by
    rw [Outline.flatten_emitted hwhole]
    exact List.mem_filterMap.mpr ⟨_, hinside, hemitted⟩
  obtain ⟨level, hlevel, hl⟩ := List.mem_flatMap.mp hmem
  exact ⟨level, hparts level (Option.mem_toList.mp hlevel), hl⟩

lemma sound_of_ofGraph (h : ofGraph root g criteria = .ok plan) : g.Sound root := by
  obtain ⟨-, -, hgathers⟩ := gathers_of_ofGraph h
  refine { complete := overflowed_of_ofGraph h, levels := ?_, joins := ?_, keys := ?_ }
  · intro i e he hmany
    obtain ⟨result, hok, -⟩ := level_of_ofGraph wf h he hmany
    exact Outline.sound_of_level hok
  · intro i e he hmany hprev
    have hid := wf.id he
    have hplain : e.id ∈ (Placement.ofGraph g).plain :=
      (Placement.mem_plain wf).mpr ⟨e, by rw [hid, he], hmany, hprev⟩
    obtain ⟨clause, hclause⟩ := hgathers.join_ok (Placement.mem_edges_of_edge? wf he) hplain
    exact Edge.joins_of_join hclause
  · have hkeys := hgathers.keys
    rw [show recordKey root = root.fieldCase.apply ∘ ResultColumn.name from rfl,
      ← List.map_map, hgathers.names_eq (edges_known wf)] at hkeys
    exact hkeys

lemma fault_of_ofGraph (hbridged : g.Bridged) (h : ofGraph root g criteria = .error error) :
    g.Fault root error := by
  unfold ofGraph at h
  split at h
  · rename_i cut hcut
    cases h
    obtain ⟨i, hi, rfl⟩ := Option.map_eq_some_iff.mp hcut
    exact .tooDeep (List.mem_of_mem_head? hi)
  simp only [bind, Except.bind, pure, Except.pure] at h
  split at h
  · rename_i error' hstopped
    cases h
    rcases stops_of_yields (edges_known wf) yields_gather hstopped with
      ⟨e, he, hplain, hclause⟩ | ⟨e, he, harray, hlevel⟩ | ⟨key, rfl, hclash⟩
    · obtain ⟨hnot, rfl⟩ := Edge.error_of_join hclause
      obtain ⟨e', he', hone, hprev⟩ := (Placement.mem_plain wf).mp hplain
      obtain rfl : e' = e := Option.some.inj (he'.symm.trans (edges_known wf e he))
      exact .untied he' hone hprev hnot
    · obtain ⟨e', he', hmany, -⟩ := (Placement.mem_aggregations wf).mp harray
      rw [Graph.level_eq he'] at hlevel
      obtain ⟨-, hread⟩ := Outline.isRead_ofEdge wf he' hmany
      have hroots : ∀ l ∈ (Outline.ofEdge g e').flatten,
          l.root.many = true ∧ (l.root.bridge = true → l.root.next ≠ none) := by
        refine fun l hl => ⟨(hread l hl).many, fun hbridge => ?_⟩
        obtain ⟨-, f, hf, hprev, -⟩ := hbridged _ _ (hread l hl).root hbridge
        rw [(wf.next_iff (hread l hl).root).mpr ⟨f, hf, hprev⟩]
        exact Option.some_ne_none _
      obtain ⟨l, hl, hbreach⟩ := Outline.breach_of_level hroots hlevel
      rw [Outline.eq_ofEdge wf he' hmany hl] at hbreach
      exact .level (hread l hl).root (hread l hl).many hbreach
    · exact .clash hclash
  · cases h

end Declared

end Plan

/-- **Which graphs are compiled**: for any root, criteria and database, a declared graph is compiled
exactly if it is sound for the root, and otherwise refused for a fault that it has, which is never
that a relation is not to-many or that a bridge has no target. -/
theorem Script.compiles_iff_sound (script : Script) (schema : Schema) (entity root : Entity)
    (criteria : Criteria) (t : Target) :
    let g := (script.declare schema entity).graph
    ((∃ query, g.compile root criteria t = .ok query) ↔ g.Sound root) ∧
      (∀ error, g.compile root criteria t = .error error → g.Fault root error) ∧
      ∀ table obstacle, g.compile root criteria t = .error (.unresolvable table obstacle) →
        obstacle ≠ .notMany ∧ obstacle ≠ .bridgeWithoutTarget := by
  have wf := script.wellFormed_declare schema entity
  have hbridged := script.bridged_declare schema entity
  intro g
  have hfault : ∀ error, g.compile root criteria t = .error error → g.Fault root error :=
    fun error h => Plan.fault_of_ofGraph wf hbridged (Graph.compile_eq_error_iff.mp h)
  refine ⟨⟨?_, fun hsound => ?_⟩, hfault, fun table obstacle h => (hfault _ h).obstacle_ne⟩
  · rintro ⟨query, hquery⟩
    obtain ⟨plan, hplan, -⟩ := Graph.compile_eq_ok_iff.mp hquery
    exact Plan.sound_of_ofGraph wf hplan
  · cases hcompile : g.compile root criteria t with
    | ok query => exact ⟨query, rfl⟩
    | error error => exact absurd hsound (hfault error hcompile).not_sound

/-- The comments of a post are accepted. -/
theorem Script.sound_of_thread : Graph.ofThread.Sound (Schema.unrelated.entity "post") := by
  have hplan : (Plan.ofGraph (Schema.unrelated.entity "post") .ofThread {}).isOk = true := by
    decide +kernel
  refine (thread.compiles_iff_sound .unrelated _ _ {} (.ofDialect .sqlite)).1.mp ?_
  cases h : Plan.ofGraph (Schema.unrelated.entity "post") .ofThread {} with
  | error error => simp [h, Except.isOk, Except.toBool] at hplan
  | ok plan => exact ⟨_, Graph.compile_eq_ok_iff.mpr ⟨plan, h, rfl⟩⟩

end RelationQuery
