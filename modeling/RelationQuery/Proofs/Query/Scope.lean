import RelationQuery.Proofs.Aggregation.Scope
import RelationQuery.Proofs.Query.Parts
import RelationQuery.Proofs.Query.Placement
import RelationQuery.Proofs.Relation.Stray

/-!
The scope of the root query. Edges that stand on no chain are joined to the root, or gathered into
an array that is. The source of such an edge is the root's table or the target of an edge before
it. That edge is a join of the root too, unless it was made to-many only after the other had been
declared from it: then its table is inside an array, and the source is out of scope.
-/

namespace RelationQuery

namespace Graph

/-- The edge brings a table of this name into the root query. -/
def Introduces (g : Graph) (f : Edge) (name : String) : Prop :=
  f.prev = none ∧ if f.many then ∃ L, g.level f.id = .ok (some L) ∧ L.name = name
    else f.target.exposed = name

/-- The edge is compared with its source in the root query. -/
def Compares (g : Graph) (e : Edge) : Prop :=
  e.prev = none ∧ if e.many then ∃ L, g.level e.id = .ok (some L)
    else e.kind ≠ .cross ∧ e.predicate.terms ≠ []

/-- Some table of the root query has the alias of the edge's source, before the edge. -/
def InScope (g : Graph) (e : Edge) : Prop :=
  e.source.asName = g.root.exposed ∨
    ∃ f ∈ g.edges.toList, f.id < e.id ∧ g.Introduces f e.source.asName

/-- `names` are the tables that the root query has after the edges `before`. -/
def Brings (g : Graph) (before : List Edge) (names : List String) : Prop :=
  ∀ name, name ∈ names ↔ name = g.root.exposed ∨ ∃ f ∈ before, g.Introduces f name

variable {g : Graph} {before : List Edge} {names : List String} {e : Edge}

lemma Brings.snoc (h : g.Brings before names) {name : String}
    (he : ∀ n, g.Introduces e n ↔ n = name) : g.Brings (before ++ [e]) (names ++ [name]) := by
  intro n
  simp only [List.mem_append, List.mem_singleton, h n, or_and_right, exists_or, exists_eq_left,
    he n, or_assoc]

lemma Brings.skip (h : g.Brings before names) (he : ∀ n, ¬ g.Introduces e n) :
    g.Brings (before ++ [e]) names := by
  intro n
  simp only [List.mem_append, List.mem_singleton, h n, or_and_right, exists_or, exists_eq_left,
    he n, or_false]

lemma Brings.mem_iff (wf : g.WellFormed) (h : g.Brings before names) {rest : List Edge}
    (hsplit : g.edges.toList = before ++ e :: rest) : e.source.asName ∈ names ↔ g.InScope e := by
  have hpos : ∀ (i : Nat) (f : Edge), g.edges.toList[i]? = some f → f.id = i := by
    intro i f hf
    exact wf.id (by simpa [edge?] using hf)
  have he : e.id = before.length := hpos _ _ (by rw [hsplit]; simp)
  rw [h e.source.asName, InScope]
  refine or_congr_right ⟨?_, ?_⟩
  · rintro ⟨f, hf, hname⟩
    obtain ⟨i, hi⟩ := List.mem_iff_getElem?.mp hf
    obtain ⟨hlt, -⟩ := List.getElem?_eq_some_iff.mp hi
    have hfid : f.id = i := hpos i f (by rw [hsplit, List.getElem?_append_left hlt, hi])
    refine ⟨f, ?_, by omega, hname⟩
    rw [hsplit]
    exact List.mem_append_left _ hf
  · rintro ⟨f, hf, hlt, hname⟩
    obtain ⟨i, hi⟩ := List.mem_iff_getElem?.mp hf
    have hfid := hpos i f hi
    rw [hsplit, List.getElem?_append_left (by omega)] at hi
    exact ⟨f, List.mem_of_getElem? hi, hname⟩

end Graph

namespace Plan

variable {root : Entity} {g : Graph} {taken : List String} {edges : List Edge} {parts : List Part}

/-- All comparisons of a join are with the source of its edge, if there are any. -/
lemma terms_scoped_iff {terms : List (Column × Comparison × Column)} {names : List String}
    {source : String} (hsource : ∀ term ∈ terms, term.1.qualifier = some source) :
    (∀ term ∈ terms, ∃ name ∈ names, term.1.qualifier = some name) ↔
      (terms ≠ [] → source ∈ names) := by
  constructor
  · intro hall hne
    obtain ⟨term, hterm⟩ := List.exists_mem_of_ne_nil _ hne
    obtain ⟨name, hname, hq⟩ := hall term hterm
    rw [hsource term hterm] at hq
    rwa [Option.some.inj hq]
  · intro hmem term hterm
    exact ⟨source, hmem (List.ne_nil_of_mem hterm), hsource term hterm⟩

/-- The level that an edge starts is compared as the edge says. -/
lemma level_correlation (wf : g.WellFormed) {e : Edge} (he : g.edge? e.id = some e)
    (hmany : e.many = true) {L : Level} (h : g.level e.id = .ok (some L)) :
    e.correlation = .ok L.correlation := by
  rw [Graph.level, he] at h
  have hcorrelation := (Outline.level_spec h).1.correlation
  rwa [(Outline.isRead_ofEdge wf he hmany).1] at hcorrelation

section Gathering

variable (wf : g.WellFormed) (htied : g.AllTied) {before rest : List Edge} {names : List String}
  {e : Edge}
include wf htied

omit htied in
/-- A join behind others is in scope exactly if the source of its edge is. -/
lemma scopedFrom_cons_iff {clause : JoinClause} {clauses : List JoinClause}
    (hsplit : g.edges.toList = before ++ e :: rest) (hnames : g.Brings before names)
    (hsource : ∀ term ∈ clause.tie.terms, term.1.qualifier = some e.source.asName)
    (hcompares : clause.tie.terms ≠ [] ↔ g.Compares e) :
    Select.ScopedFrom names (clause :: clauses) ↔
      (g.Compares e → g.InScope e) ∧
        Select.ScopedFrom (names ++ [clause.source.exposed]) clauses := by
  rw [Select.ScopedFrom, terms_scoped_iff hsource, hcompares, hnames.mem_iff wf hsplit]

/-- The joins of the root are in scope exactly if the sources of their edges are. -/
lemma Gathers.scopedFrom_iff (t : Target) (hsplit : g.edges.toList = before ++ edges)
    (hnames : g.Brings before names) (h : Gathers root g (.ofGraph g) taken edges parts) :
    Select.ScopedFrom names (parts.map (joinClause t)) ↔
      ∀ e ∈ edges, g.Compares e → g.InScope e := by
  have hedge : ∀ {before rest : List Edge} {e : Edge}, g.edges.toList = before ++ e :: rest →
      g.edge? e.id = some e := by
    intro before rest e hsplit
    refine (Placement.mem_edges wf).mp ?_
    rw [hsplit]
    exact List.mem_append_right _ List.mem_cons_self
  have hnext : ∀ {before rest : List Edge} {e : Edge}, g.edges.toList = before ++ e :: rest →
      g.edges.toList = before ++ [e] ++ rest := by
    intro before rest e hsplit
    rw [hsplit, List.append_assoc, List.singleton_append]
  induction h generalizing before names with
  | nil => simp [Select.ScopedFrom]
  | @join _ _ e _ _ clause hplain hclause _ _ ih =>
    have he := hedge hsplit
    obtain ⟨k, hk, hmany, hprev⟩ := (Placement.mem_plain wf).mp hplain
    obtain rfl : e = k := Option.some.inj (he.symm.trans hk)
    have hleft := (htied _ _ he).2.left
    have hexposed : clause.source.exposed = e.target.exposed := by
      rw [Edge.source_of_join hclause]
      rfl
    have hintroduces : ∀ n, g.Introduces e n ↔ n = clause.source.exposed := by
      intro n
      simp [Graph.Introduces, hprev, hmany, hexposed, eq_comm]
    have hcompares : clause.tie.terms ≠ [] ↔ g.Compares e := by
      rw [Edge.terms_of_join hclause]
      by_cases hcross : e.kind = .cross <;> simp [Graph.Compares, hprev, hmany, hcross]
    have hrest : Select.ScopedFrom _ _ ↔ _ := ih (hnext hsplit) (hnames.snoc hintroduces)
    rw [List.map_cons, joinClause, scopedFrom_cons_iff wf hsplit hnames
      (Edge.qualifier_of_join hleft hclause) hcompares, List.forall_mem_cons, hrest]
  | @array _ _ e _ _ level hplain harray hlevel _ _ ih =>
    have he := hedge hsplit
    obtain ⟨k, hk, hmany, hprev⟩ := (Placement.mem_aggregations wf).mp harray
    obtain rfl : e = k := Option.some.inj (he.symm.trans hk)
    have hleft := (htied _ _ he).2.left
    have hcorrelation := level_correlation wf he hmany hlevel
    have hintroduces : ∀ n, g.Introduces e n ↔ n = level.name := by
      intro n
      simp [Graph.Introduces, hprev, hmany, hlevel, eq_comm]
    have hsource : ∀ term ∈ (level.joinClause t).tie.terms,
        term.1.qualifier = some e.source.asName := by
      intro term hterm
      rw [List.mem_singleton.mp hterm]
      exact Edge.qualifier_of_correlation hleft hcorrelation
    have hcompares : (level.joinClause t).tie.terms ≠ [] ↔ g.Compares e := by
      simp [Graph.Compares, hprev, hmany, hlevel, Level.joinClause, JoinTie.terms]
    have hrest : Select.ScopedFrom _ _ ↔ _ := ih (hnext hsplit) (hnames.snoc hintroduces)
    rw [List.map_cons, joinClause, scopedFrom_cons_iff wf hsplit hnames hsource hcompares,
      List.forall_mem_cons, ← hrest]
    rfl
  | @silent _ e _ _ hplain harray hlevel _ ih =>
    obtain ⟨k, hk, hmany, -⟩ := (Placement.mem_aggregations wf).mp harray
    obtain rfl : e = k := Option.some.inj ((hedge hsplit).symm.trans hk)
    have hintroduces : ∀ n, ¬ g.Introduces e n := by
      simp [Graph.Introduces, hmany, hlevel]
    have hcompares : ¬ g.Compares e := by
      simp [Graph.Compares, hmany, hlevel]
    have hrest : Select.ScopedFrom _ _ ↔ _ := ih (hnext hsplit) (hnames.skip hintroduces)
    rw [List.forall_mem_cons, hrest]
    simp [hcompares]
  | @inside _ e _ _ hplain harray _ ih =>
    have hprev : e.prev ≠ none := by
      intro hprev
      cases hmany : e.many with
      | true => exact harray ((Placement.mem_aggregations wf).mpr ⟨e, hedge hsplit, hmany, hprev⟩)
      | false => exact hplain ((Placement.mem_plain wf).mpr ⟨e, hedge hsplit, hmany, hprev⟩)
    have hintroduces : ∀ n, ¬ g.Introduces e n := fun n h => hprev h.1
    have hcompares : ¬ g.Compares e := fun h => hprev h.1
    have hrest : Select.ScopedFrom _ _ ↔ _ := ih (hnext hsplit) (hnames.skip hintroduces)
    rw [List.forall_mem_cons, hrest]
    simp [hcompares]

omit wf in
/-- The source of an edge is in scope, unless its anchor has become to-many since. -/
lemma inScope_or_stray (wf : g.WellFormed) (hnamed : g.root.asName ≠ "")
    (he : g.edge? e.id = some e) (hprev : e.prev = none) : g.InScope e ∨ g.Stray e := by
  have hsource := (htied _ _ he).2.source
  cases ha : e.anchor with
  | none =>
    rw [ha] at hsource
    have hroot : e.source = g.root := hsource
    refine .inl (.inl ?_)
    rw [hroot, Table.exposed_of_ne hnamed]
  | some a =>
    rw [ha] at hsource
    obtain ⟨f, hf, htarget⟩ := hsource
    cases hmany : f.many with
    | true => exact .inr ⟨hprev, a, f, ha, hf, hmany⟩
    | false =>
      have hfid := wf.id hf
      have hfree := wf.free he hprev ha hf
      have hlt := wf.anchor_lt he ha
      refine .inl (.inr ⟨f, Placement.mem_edges_of_edge? wf hf, by omega, hfree, ?_⟩)
      rw [hmany, if_neg (by decide), ← htarget]
      exact Table.exposed_of_ne (htied _ _ hf).2.named

end Gathering

end Plan

section Declared

open Text (Undotted)

variable {schema : Schema} {script : Script} {entity : Entity} {criteria : Criteria} {plan : Plan}

lemma Script.root_declare : (script.declare schema entity).graph.root = entity.tableRef :=
  (script.run_extends (schema.expand_grows _) _ _).root

/-- The levels of an array are in scope. -/
lemma Plan.levels_scoped {g : Graph} (wf : g.WellFormed) (htied : g.AllTied)
    (hplan : Plan.ofGraph entity g criteria = .ok plan) {level : Level}
    (hlevel : .aggregation level ∈ plan.parts) : ∀ l ∈ level.flatten,
      l.rows.Scoped ∧ ∀ inner ∈ l.nested, ∃ name ∈ l.rows.scope,
        inner.correlation.outer.qualifier = some name := by
  obtain ⟨-, -, hgathers⟩ := Plan.gathers_of_ofGraph hplan
  obtain ⟨e, -, harray, hown⟩ := hgathers.exists_level hlevel
  obtain ⟨root, hroot, hmany, hhead⟩ := (Placement.mem_aggregations wf).mp harray
  rw [Graph.level, hroot] at hown
  have hflatten := Outline.flatten_emitted hown
  rw [Option.toList_some, List.flatMap_singleton] at hflatten
  intro l hl
  rw [hflatten] at hl
  obtain ⟨o, ho, hemitted⟩ := List.mem_filterMap.mp hl
  have hemits := Outline.emitsAs_of_emitted hown ho hemitted
  exact Outline.scoped_of_emitsAs wf htied hroot hmany hhead ho hemits hown

lemma Plan.scoped_iff {g : Graph} (wf : g.WellFormed) (htied : g.AllTied)
    (hroot : g.root = entity.tableRef) (hnamed : entity.asName ≠ "")
    (hplan : Plan.ofGraph entity g criteria = .ok plan) (t : Target) :
    (plan.select t).Scoped ↔
      ∀ e ∈ g.edges.toList, g.Stray e → g.Compares e → g.InScope e := by
  obtain ⟨rfl, -, hgathers⟩ := Plan.gathers_of_ofGraph hplan
  have hbrings : g.Brings [] [plan.root.tableRef.exposed] := by
    intro name
    simp [hroot]
  have hjoins := hgathers.scopedFrom_iff wf htied t (List.nil_append _).symm hbrings
  rw [Select.Scoped, Plan.select, hjoins]
  refine forall₂_congr fun e he => ⟨fun h _ => h, fun h hcompares => ?_⟩
  have hedge := (Placement.mem_edges wf).mp he
  have hnamed' : g.root.asName ≠ "" := by rwa [hroot]
  rcases Plan.inScope_or_stray htied wf hnamed' hedge hcompares.1 with hscope | hstray
  · exact hscope
  · exact h hstray hcompares

/-- **Scope of plain scripts**: in levels, every comparison is with a table of the level or, for
the row around it, of the level around it. In the root query, too, every join compares columns of
tables before it, exactly if no stray edge is compared under an alias that is not there. -/
theorem Script.scope_of_plain (hentities : ∀ key, (schema.entity key).Plain)
    (hschema : schema.Obeys .plain) (hscript : script.Obeys .plain) (hentity : entity.Plain)
    (hplan : Plan.ofGraph entity (script.declare schema entity).graph criteria = .ok plan)
    (t : Target) :
    let g := (script.declare schema entity).graph
    (∀ level, .aggregation level ∈ plan.parts → ∀ l ∈ level.flatten,
      l.rows.Scoped ∧ ∀ inner ∈ l.nested, ∃ name ∈ l.rows.scope,
        inner.correlation.outer.qualifier = some name) ∧
    ((plan.select t).Scoped ↔
      ∀ e ∈ g.edges.toList, g.Stray e → g.Compares e → g.InScope e) := by
  have wf := script.wellFormed_declare schema entity
  have htied := Script.allTied_declare hentities hschema hscript hentity
  exact ⟨fun level hlevel => Plan.levels_scoped wf htied hplan hlevel,
    Plan.scoped_iff wf htied root_declare hentity.named hplan t⟩

lemma Schema.unrelated_plain (key : EntityKey) : (unrelated.entity key).Plain where
  named := by simp [unrelated, String.append_eq_empty_iff]
  id := (by decide : Undotted "id")

theorem Script.scope_of_thread : ∃ plan,
    Plan.ofGraph (Schema.unrelated.entity "post") .ofThread {} = .ok plan ∧
      (plan.select (.ofDialect .sqlite)).Scoped := by
  have hthread : thread.Obeys .plain := by
    simp [thread, Obeys, Rule.plain, Relating.Plain, Setting.Plain]
    decide
  obtain ⟨plan, hplan⟩ :
      ∃ plan, Plan.ofGraph (Schema.unrelated.entity "post") .ofThread {} = .ok plan := ⟨_, rfl⟩
  refine ⟨plan, hplan, ?_⟩
  have hscope := scope_of_plain Schema.unrelated_plain (fun _ => trivial) hthread
    (Schema.unrelated_plain "post") hplan (.ofDialect .sqlite)
  refine hscope.2.mpr ?_
  rintro e he ⟨hprev, a, f, ha, -⟩
  have hanchor : ∀ e ∈ Graph.ofThread.edges.toList, e.prev = none → e.anchor = none := by decide
  rw [hanchor e he hprev] at ha
  cases ha

/-- A post has one comment; other entities have no relations. -/
def Schema.commented : Schema where
  entity := Schema.unrelated.entity
  relations key := if key = "post" then
    .relate (.one "comment") [.columns [.column "body"]] .done .done else .done

/-- A post is made to-many after its comment has been brought in. -/
def Script.posts : Script :=
  .relate (.one "post") [.columns [.column "title"], .nest, .many] .done .done

theorem Script.unscoped_posts :
    posts.Obeys .plain ∧ Schema.commented.Obeys .plain ∧
      (∀ key, (Schema.commented.entity key).Plain) ∧ ∃ plan,
        Plan.ofGraph (Schema.commented.entity "user")
          (posts.declare .commented (Schema.commented.entity "user")).graph {} = .ok plan ∧
        ¬ (plan.select (.ofDialect .sqlite)).Scoped := by
  refine ⟨?_, fun key => ?_, Schema.unrelated_plain, _, rfl, by decide⟩
  · simp [posts, Obeys, Rule.plain, Relating.Plain, Setting.Plain]
  · simp only [Schema.commented]
    split <;> simp [Obeys, Rule.plain, Relating.Plain, Setting.Plain]

/-- **Scope of orderly scripts**: where no edge is made to-many after scripts were run below it,
every join of the root compares columns of tables before it. -/
theorem Script.scoped_of_orderly (hentities : ∀ key, (schema.entity key).Plain)
    (hschema : schema.Obeys .plain) (hscript : script.Obeys .plain) (hentity : entity.Plain)
    (horder : schema.Obeys .orderly) (hscriptOrder : script.Obeys .orderly)
    (hplan : Plan.ofGraph entity (script.declare schema entity).graph criteria = .ok plan)
    (t : Target) : (plan.select t).Scoped := by
  have wf := script.wellFormed_declare schema entity
  have htied := Script.allTied_declare hentities hschema hscript hentity
  rw [Plan.scoped_iff wf htied root_declare hentity.named hplan t]
  intro e he hstray
  exact absurd hstray (Script.not_stray horder hscriptOrder ((Placement.mem_edges wf).mp he))

end Declared

end RelationQuery
