import RelationQuery.Proofs.Query.Parts
import RelationQuery.Proofs.Relation.Nesting

/-!
What is left out of graphs that are too deep. Beside a run stands the list of the statements that
it has come to, those of nested scripts included. The marks that a run leaves in the graph are read
off this list: they are on the edges that call for a script where none is run any more. No query is
compiled from a graph with such a mark.
-/

namespace RelationQuery

/-- A statement that a run has come to: its edge, the depth of the site that it was made at, the
entity at its target, and what was done with it. -/
structure Declared where
  id : Nat
  depth : Nat
  related : Option EntityKey
  settings : List Setting
  deriving DecidableEq

/-- The statement calls for the script of its entity at a depth where this is left out. -/
def Declared.CutOff (x : Declared) : Prop :=
  .nest ∈ x.settings ∧ x.related ≠ none ∧ maxDepth ≤ x.depth
  deriving Decidable

/-- The statements that running an entity's script comes to. -/
abbrev Listing := EntityKey → Site → Draft → List Declared

def Draft.nested (list : Listing) (related : Option EntityKey) (depth id : Nat) (d : Draft) :
    List Declared :=
  match related, d.graph.edge? id with
  | some key, some e => if maxDepth < depth + 1 then [] else list key (Site.below depth e) d
  | _, _ => []

def Setting.nested (list : Listing) (related : Option EntityKey) (depth id : Nat) (d : Draft) :
    Setting → List Declared
  | .nest => d.nested list related depth id
  | _ => []

/-- The statements that applying the settings of an edge comes to. -/
def Draft.nestedAll (expand : Expansion) (list : Listing) (related : Option EntityKey)
    (depth id : Nat) : List Setting → Draft → List Declared
  | [], _ => []
  | setting :: rest, d => setting.nested list related depth id d ++
      nestedAll expand list related depth id rest (setting.run expand related depth id d)

/-- The statements that running a script comes to, in the order of their edges. -/
def Script.list (schema : Schema) (expand : Expansion) (list : Listing) :
    Script → Site → Draft → List Declared
  | .done, _, _ => []
  | .relate r settings branch rest, s, d =>
    let placed := r.place schema s d
    let id := placed.graph.size - 1
    let settled := settings.foldl (Setting.run expand r.key? s.depth id) placed
    let below := match settled.graph.edge? id with
      | some e => branch.list schema expand list (Site.below s.depth e) settled
      | none => []
    let branched := match settled.graph.edge? id with
      | some e => branch.run schema expand (Site.below s.depth e) settled
      | none => settled
    ⟨id, s.depth, r.key?, settings⟩ ::
      (Draft.nestedAll expand list r.key? s.depth id settings placed ++
        (below ++ rest.list schema expand list (s.advance id) branched))
  | .within source body rest, s, d => body.list schema expand list (s.within source) d ++
      rest.list schema expand list s (body.run schema expand (s.within source) d)
  | .keyedBy key rest, s, d => rest.list schema expand list (s.keyedBy (schema.entity key)) d
  | .unkeyed rest, s, d => rest.list schema expand list s.unkeyed d
  | .observe rest, s, d => rest.list schema expand list s (d.noteSite s)

def Schema.list (schema : Schema) : Nat → Listing
  | 0, _, _, _ => []
  | fuel + 1, key, s, d => (schema.relations key).list schema (schema.expand fuel)
      (schema.list fuel) s (d.note (.expanded key s.depth))

/-- The statements that a declaration comes to. -/
def Script.declared (script : Script) (schema : Schema) (e : Entity) : List Declared :=
  script.list schema (schema.expand maxDepth) (schema.list maxDepth) (.ofEntity e)
    { graph := { root := e.tableRef } }

/-! ### The list beside the run -/

/-- Between two graphs, the statements `xs` were run: one for each new edge but those to pivot
tables. The new marks are on the edges of those that were cut off. -/
structure Graph.Lists (schema : Schema) (g : Graph) (xs : List Declared) (g' : Graph) : Prop where
  grows : g.Extends g'
  fresh : ∀ x ∈ xs, g.size ≤ x.id
  listed : ∀ i e, g.size ≤ i → g'.edge? i = some e → e.bridge = false → ∃ x ∈ xs, x.id = i
  edge : ∀ x ∈ xs, ∃ e, g'.edge? x.id = some e ∧ e.bridge = false ∧
    e.entity = x.related.map schema.entity
  ascending : xs.Pairwise (·.id < ·.id)
  overflowed : g'.overflowed = g.overflowed ++ (xs.filter (Declared.CutOff ·)).map Declared.id

/-- A later state with the same edges, of which `marks` are marked. -/
structure Graph.Keeps (g : Graph) (marks : List Nat) (g' : Graph) : Prop where
  grows : g.Extends g'
  size : g'.size = g.size
  overflowed : g'.overflowed = marks

lemma Graph.Keeps.refl (g : Graph) : g.Keeps g.overflowed g := ⟨.refl g, rfl, rfl⟩

/-- Where no edge is made and none is marked, no statement was run. -/
lemma Graph.Keeps.lists {schema : Schema} {g g' : Graph} (h : g.Keeps g.overflowed g') :
    g.Lists schema [] g' where
  grows := h.grows
  fresh := by simp
  listed := fun i e hi he => by
    have := Graph.lt_size_of_edge? he
    have := h.size
    omega
  edge := by simp
  ascending := .nil
  overflowed := by simp [h.overflowed]

/-- All marks are on edges of the graph. -/
def Graph.Marked (g : Graph) : Prop := ∀ i ∈ g.overflowed, i < g.size

namespace Graph.Lists

variable {schema : Schema} {g g' g'' : Graph} {xs xs' : List Declared}

lemma refl (g : Graph) : g.Lists schema [] g := (Keeps.refl g).lists

lemma trans (h : g.Lists schema xs g') (h' : g'.Lists schema xs' g'') :
    g.Lists schema (xs ++ xs') g'' where
  grows := h.grows.trans h'.grows
  fresh := by
    intro x hx
    rcases List.mem_append.mp hx with hx | hx
    · exact h.fresh x hx
    · exact h.grows.size_le.trans (h'.fresh x hx)
  listed := by
    intro i e hi he hbridge
    rcases Nat.lt_or_ge i g'.size with hlt | hge
    · obtain ⟨f, hf⟩ := edge?_of_lt hlt
      obtain ⟨k, hk, hfk⟩ := h'.grows.edge i f hf
      obtain rfl : k = e := Option.some.inj (hk.symm.trans he)
      obtain ⟨x, hx, hid⟩ := h.listed i f hi hf (hfk.bridge.symm.trans hbridge)
      exact ⟨x, List.mem_append_left _ hx, hid⟩
    · obtain ⟨x, hx, hid⟩ := h'.listed i e hge he hbridge
      exact ⟨x, List.mem_append_right _ hx, hid⟩
  edge := by
    intro x hx
    rcases List.mem_append.mp hx with hx | hx
    · obtain ⟨f, hf, hbridge, hentity⟩ := h.edge x hx
      obtain ⟨k, hk, hfk⟩ := h'.grows.edge _ f hf
      exact ⟨k, hk, hfk.bridge.trans hbridge, hfk.entity.trans hentity⟩
    · exact h'.edge x hx
  ascending := by
    refine List.pairwise_append.mpr ⟨h.ascending, h'.ascending, fun x hx y hy => ?_⟩
    obtain ⟨e, he, -⟩ := h.edge x hx
    exact (lt_size_of_edge? he).trans_le (h'.fresh y hy)
  overflowed := by
    rw [h'.overflowed, h.overflowed, List.filter_append, List.map_append, List.append_assoc]

lemma marked (h : g.Lists schema xs g') (hmarked : g.Marked) : g'.Marked := by
  intro i hi
  rw [h.overflowed, List.mem_append, List.mem_map] at hi
  rcases hi with hi | ⟨x, hx, rfl⟩
  · exact (hmarked i hi).trans_le h.grows.size_le
  · obtain ⟨e, he, -⟩ := h.edge x (List.mem_filter.mp hx).1
    exact lt_size_of_edge? he

end Graph.Lists

/-- What is listed of the scripts of entities is what running them comes to. -/
def Expansion.Listed (schema : Schema) (expand : Expansion) (list : Listing) : Prop :=
  ∀ key s (d : Draft), d.graph.Marked →
    d.graph.Lists schema (list key s d) (expand key s d).graph

section Listing

variable {schema : Schema} {expand : Expansion} {list : Listing}

lemma Relating.overflowed_place (r : Relating) (schema : Schema) (s : Site) (d : Draft) :
    (r.place schema s d).graph.overflowed = d.graph.overflowed := by
  have hpush (g : Graph) (follows : Option Nat) (e : Edge) :
      (g.push follows e).overflowed = g.overflowed := by
    cases follows <;> rfl
  cases r with
  | belongsToMany key pivot =>
    rw [Relating.graph_place_belongsToMany]
    exact (hpush _ _ _).trans (hpush _ _ _)
  | _ => exact hpush _ _ _

/-- Of the new edges of `g'`, the one at `id` alone does not lead to a pivot table. -/
structure Graph.Makes (g g' : Graph) (id : Nat) (entity : Option Entity) : Prop where
  fresh : g.size ≤ id
  made : ∃ e, g'.edge? id = some e ∧ e.bridge = false ∧ e.entity = entity
  only : ∀ i e, g.size ≤ i → g'.edge? i = some e → e.bridge = false → i = id

lemma Graph.makes_push (g : Graph) (follows : Option Nat) {e : Edge} (hbridge : e.bridge = false) :
    g.Makes (g.push follows e) g.size e.entity where
  fresh := Nat.le_refl _
  made := ⟨_, g.edge?_push_self follows e, hbridge, rfl⟩
  only := fun i f hi hf _ => by
    have hlt := Graph.lt_size_of_edge? hf
    rw [Graph.size_push] at hlt
    omega

/-- An edge to a pivot table is not what is made. -/
lemma Graph.makes_push_bridge (g : Graph) (follows : Option Nat) {e bridge : Edge}
    (hbridge : bridge.bridge = true) (he : e.bridge = false) :
    g.Makes ((g.push follows bridge).push (some g.size) e) (g.size + 1) e.entity where
  fresh := Nat.le_succ _
  made := by
    have hself := (g.push follows bridge).edge?_push_self (some g.size) e
    rw [Graph.size_push] at hself
    exact ⟨_, hself, he, rfl⟩
  only := fun i f hi hf hplain => by
    have hlt := Graph.lt_size_of_edge? hf
    rw [Graph.size_push, Graph.size_push] at hlt
    by_contra hne
    obtain rfl : i = g.size := by omega
    obtain ⟨f', hf', hgrows⟩ := ((g.push follows bridge).extends_push (some g.size) e).edge _ _
      (g.edge?_push_self follows bridge)
    obtain rfl : f' = f := Option.some.inj (hf'.symm.trans hf)
    exact absurd (hgrows.bridge.symm.trans hplain) (by simp [hbridge])

/-- The last edge that a statement makes is its own; any before it leads to a pivot table. -/
lemma Relating.makes_place (r : Relating) (schema : Schema) (s : Site) (d : Draft) :
    d.graph.Makes (r.place schema s d).graph ((r.place schema s d).graph.size - 1)
      (r.key?.map schema.entity) := by
  have hone {e : Edge} (hbridge : e.bridge = false) :
      d.graph.Makes (d.graph.push s.pending e) ((d.graph.push s.pending e).size - 1) e.entity := by
    rw [Graph.size_push]
    exact d.graph.makes_push s.pending hbridge
  cases r with
  | join kind target =>
    have hkind (e : Edge) : (e.withKind kind).bridge = e.bridge ∧
        (e.withKind kind).entity = e.entity := by
      unfold Edge.withKind
      split <;> exact ⟨rfl, rfl⟩
    have hmade := hone (hkind (s.edge .inner target none)).1
    rw [(hkind _).2] at hmade
    exact hmade
  | one key => exact hone rfl
  | many key => exact hone rfl
  | belongsToMany key pivot =>
    rw [Relating.graph_place_belongsToMany]
    dsimp only
    rw [Graph.size_push, Graph.size_push]
    exact d.graph.makes_push_bridge s.pending rfl rfl

/-- A statement is listed once its edge is made and, if it was cut off, marked. -/
lemma Relating.lists_place (r : Relating) (s : Site) (d : Draft) {x : Declared} {g : Graph}
    (hid : x.id = (r.place schema s d).graph.size - 1) (hrelated : x.related = r.key?)
    (h : (r.place schema s d).graph.Keeps
      (d.graph.overflowed ++ if x.CutOff then [x.id] else []) g) :
    d.graph.Lists schema [x] g := by
  obtain ⟨hfresh, ⟨e, he, hbridge, hentity⟩, honly⟩ := r.makes_place schema s d
  obtain ⟨f, hf, hef⟩ := h.grows.edge _ e he
  refine
    { grows := (r.place_extends schema s d).trans h.grows
      fresh := by simpa [hid] using hfresh
      listed := fun i k hi hk hkbridge => ⟨x, List.mem_singleton_self x, ?_⟩
      edge := ?_
      ascending := List.pairwise_singleton _ _
      overflowed := ?_ }
  · have hlt := Graph.lt_size_of_edge? hk
    rw [h.size] at hlt
    obtain ⟨k', hk'⟩ := Graph.edge?_of_lt hlt
    obtain ⟨k'', hk'', hgrown⟩ := h.grows.edge i k' hk'
    obtain rfl : k'' = k := Option.some.inj (hk''.symm.trans hk)
    rw [hid, honly i k' hi hk' (hgrown.bridge.symm.trans hkbridge)]
  · intro y hy
    obtain rfl := List.mem_singleton.mp hy
    exact ⟨f, by rw [hid, hf], hef.bridge.trans hbridge,
      by rw [hef.entity, hentity, hrelated]⟩
  · rw [h.overflowed]
    by_cases hcut : x.CutOff <;> simp [hcut]

section Settings

variable {related : Option EntityKey} {depth id : Nat} {d : Draft}

lemma Graph.overflowed_markOverflowed (g : Graph) (id : Nat) : (g.markOverflowed id).overflowed =
    if id ∈ g.overflowed then g.overflowed else g.overflowed ++ [id] := by
  unfold markOverflowed
  split <;> simp_all

/-- Every setting but that which calls for a script changes the edge alone. -/
lemma Setting.run_keeps (expand : Expansion) {setting : Setting} (hnest : setting ≠ .nest)
    (related : Option EntityKey) (depth id : Nat) (d : Draft) :
    d.graph.Keeps d.graph.overflowed (setting.run expand related depth id d).graph := by
  cases setting with
  | nest => exact absurd rfl hnest
  | observe =>
    have hgraph : (Setting.observe.run expand related depth id d).graph = d.graph :=
      d.graph_noteEdge id
    rw [hgraph]
    exact .refl _
  | _ => exact ⟨Graph.extends_update (Setting.change_grows _) _ _, Graph.size_update .., rfl⟩

lemma Setting.nested_of_ne (list : Listing) {setting : Setting} (hnest : setting ≠ .nest)
    (related : Option EntityKey) (depth id : Nat) (d : Draft) :
    setting.nested list related depth id d = [] := by
  cases setting with
  | nest => exact absurd rfl hnest
  | _ => rfl

/-- Too deep, to call for a script marks the edge, if there is a script. -/
lemma Setting.run_deep (expand : Expansion) (related : Option EntityKey) (hdeep : maxDepth ≤ depth)
    (hid : id < d.graph.size) (setting : Setting) :
    d.graph.Keeps (if setting = .nest ∧ related ≠ none
        then (d.graph.markOverflowed id).overflowed else d.graph.overflowed)
      (setting.run expand related depth id d).graph := by
  by_cases hnest : setting = .nest
  · subst hnest
    obtain ⟨e, he⟩ := Graph.edge?_of_lt hid
    cases related with
    | none => simpa [Setting.run, Draft.nest] using Graph.Keeps.refl d.graph
    | some key =>
      simp only [Setting.run, Draft.nest, he, if_pos (Nat.lt_succ_of_le hdeep)]
      exact ⟨Graph.extends_markOverflowed _ _,
        by simp only [Graph.size, Graph.edges_markOverflowed], by simp⟩
  · simpa [hnest] using Setting.run_keeps expand hnest related depth id d

/-- Too deep, the settings of an edge leave one mark at most. -/
lemma settings_deep (expand : Expansion) (related : Option EntityKey) (hdeep : maxDepth ≤ depth)
    (settings : List Setting) (hid : id < d.graph.size) :
    d.graph.Keeps (if .nest ∈ settings ∧ related ≠ none
        then (d.graph.markOverflowed id).overflowed else d.graph.overflowed)
      (settings.foldl (Setting.run expand related depth id) d).graph := by
  induction settings generalizing d with
  | nil => simpa using Graph.Keeps.refl d.graph
  | cons setting rest ih =>
    have hstep := setting.run_deep expand related hdeep hid
    have hrest := ih (d := setting.run expand related depth id d) (by rw [hstep.size]; exact hid)
    refine ⟨hstep.grows.trans hrest.grows, hrest.size.trans hstep.size, ?_⟩
    rw [List.foldl_cons, hrest.overflowed, Graph.overflowed_markOverflowed, hstep.overflowed,
      Graph.overflowed_markOverflowed]
    by_cases hsetting : setting = .nest <;> by_cases hnest : .nest ∈ rest <;>
      by_cases hrelated : related = none <;> by_cases hmarked : id ∈ d.graph.overflowed <;>
      simp [hsetting, hnest, hrelated, hmarked, eq_comm]

/-- Too deep, settings run no scripts. -/
lemma nestedAll_deep (expand : Expansion) (list : Listing) (related : Option EntityKey)
    (hdeep : maxDepth ≤ depth) (settings : List Setting) :
    Draft.nestedAll expand list related depth id settings d = [] := by
  have hnested (d : Draft) : d.nested list related depth id = [] := by
    unfold Draft.nested
    split
    · rw [if_pos (Nat.lt_succ_of_le hdeep)]
    · rfl
  induction settings generalizing d with
  | nil => rfl
  | cons setting rest ih =>
    rw [Draft.nestedAll, ih, List.append_nil]
    by_cases hnest : setting = .nest
    · subst hnest
      exact hnested d
    · exact setting.nested_of_ne list hnest related depth id d

/-- Where it is not too deep, to call for a script is to run it. -/
lemma Draft.nest_lists (hlisted : Expansion.Listed schema expand list) (hdepth : depth < maxDepth)
    (hmarked : d.graph.Marked) : d.graph.Lists schema (d.nested list related depth id)
      (d.nest expand related depth id).graph := by
  cases related with
  | none => exact .refl _
  | some key =>
    cases he : d.graph.edge? id with
    | none =>
      simp only [Draft.nest, Draft.nested, he]
      exact .refl _
    | some e =>
      simp only [Draft.nest, Draft.nested, he, if_neg (show ¬maxDepth < depth + 1 by omega)]
      exact hlisted key _ d hmarked

/-- Where it is not too deep, settings mark no edges but those of the scripts that they run. -/
lemma settings_lists (hlisted : Expansion.Listed schema expand list) (hdepth : depth < maxDepth)
    (settings : List Setting) (hmarked : d.graph.Marked) :
    d.graph.Lists schema (Draft.nestedAll expand list related depth id settings d)
      (settings.foldl (Setting.run expand related depth id) d).graph := by
  induction settings generalizing d with
  | nil => exact .refl _
  | cons setting rest ih =>
    have hstep : d.graph.Lists schema (setting.nested list related depth id d)
        (setting.run expand related depth id d).graph := by
      by_cases hnest : setting = .nest
      · subst hnest
        exact d.nest_lists hlisted hdepth hmarked
      · rw [Setting.nested_of_ne list hnest]
        exact (Setting.run_keeps expand hnest related depth id d).lists
    exact hstep.trans (ih (hstep.marked hmarked))

end Settings

/-- A statement is listed, and after it what its settings run. -/
lemma Relating.lists_settled (hlisted : Expansion.Listed schema expand list) (r : Relating)
    (settings : List Setting) (s : Site) {d : Draft} (hmarked : d.graph.Marked) :
    let placed := r.place schema s d
    let id := placed.graph.size - 1
    d.graph.Lists schema (⟨id, s.depth, r.key?, settings⟩ ::
        Draft.nestedAll expand list r.key? s.depth id settings placed)
      (settings.foldl (Setting.run expand r.key? s.depth id) placed).graph := by
  intro placed id
  have hplaced := r.overflowed_place schema s d
  obtain ⟨hfresh, ⟨e, he, -⟩, -⟩ := r.makes_place schema s d
  rcases Nat.lt_or_ge s.depth maxDepth with hdepth | hdeep
  · have hone : d.graph.Lists schema [⟨id, s.depth, r.key?, settings⟩] placed.graph := by
      refine r.lists_place s d rfl rfl ?_
      rw [if_neg (fun hcut => absurd hcut.2.2 (Nat.not_le.mpr hdepth)), List.append_nil, ← hplaced]
      exact .refl _
    exact hone.trans (settings_lists hlisted hdepth settings (hone.marked hmarked))
  · have hkept := settings_deep expand r.key? hdeep settings (Graph.lt_size_of_edge? he)
    rw [nestedAll_deep expand list r.key? hdeep]
    refine r.lists_place s d rfl rfl ⟨hkept.grows, hkept.size, ?_⟩
    have hnew : id ∉ d.graph.overflowed := fun hmem =>
      absurd (hmarked id hmem) (Nat.not_lt.mpr hfresh)
    rw [hkept.overflowed, Graph.overflowed_markOverflowed, hplaced, if_neg hnew]
    by_cases hcalls : .nest ∈ settings ∧ r.key? ≠ none
    · rw [if_pos hcalls, if_pos ⟨hcalls.1, hcalls.2, hdeep⟩]
    · rw [if_neg hcalls, if_neg (fun hcut => hcalls ⟨hcut.1, hcut.2.1⟩), List.append_nil]

/-- What is listed of a script is what running it comes to. -/
lemma Script.run_lists (hlisted : Expansion.Listed schema expand list) (script : Script) (s : Site)
    {d : Draft} (hmarked : d.graph.Marked) :
    d.graph.Lists schema (script.list schema expand list s d)
      (script.run schema expand s d).graph := by
  induction script generalizing s d with
  | done => exact .refl _
  | relate r settings branch rest ihb ihr =>
    have hsettled := r.lists_settled hlisted settings s hmarked
    have hmarked' := hsettled.marked hmarked
    rw [Script.run, Script.list]
    refine hsettled.trans ?_
    cases (settings.foldl (Setting.run expand r.key? s.depth
        ((r.place schema s d).graph.size - 1)) (r.place schema s d)).graph.edge?
        ((r.place schema s d).graph.size - 1) with
    | none => exact ihr _ hmarked'
    | some e =>
      have hbranch := ihb (Site.below s.depth e) hmarked'
      exact hbranch.trans (ihr _ (hbranch.marked hmarked'))
  | within source body rest ihb ihr =>
    have hbody := ihb (s.within source) hmarked
    exact hbody.trans (ihr s (hbody.marked hmarked))
  | keyedBy key rest ih => exact ih _ hmarked
  | unkeyed rest ih => exact ih _ hmarked
  | observe rest ih => exact ih s (d := d.noteSite s) hmarked

lemma Schema.listed_expand (schema : Schema) (fuel : Nat) :
    Expansion.Listed schema (schema.expand fuel) (schema.list fuel) := by
  induction fuel with
  | zero => exact fun _ _ _ _ => .refl _
  | succ fuel ih =>
    exact fun key s d hmarked =>
      Script.run_lists ih _ s (d := d.note (.expanded key s.depth)) hmarked

/-- All statements that a declaration comes to are listed. -/
lemma Script.lists_declare (script : Script) (schema : Schema) (e : Entity) :
    Graph.Lists schema { root := e.tableRef } (script.declared schema e)
      (script.declare schema e).graph :=
  script.run_lists (schema.listed_expand maxDepth) _ (d := { graph := { root := e.tableRef } })
    (fun _ hi => absurd hi List.not_mem_nil)

end Listing

/-! ### Truncation -/

/-- A mark is told of before anything else: for the first marked edge, whatever the query. -/
lemma Graph.compile_of_overflowed {g : Graph} {i : Nat} {rest : List Nat} {e : Edge}
    (h : g.overflowed = i :: rest) (he : g.edge? i = some e) (root : Entity) (criteria : Criteria)
    (t : Target) : g.compile root criteria t = .error (.unresolvable e.target.name .tooDeep) := by
  rw [compile_eq_error_iff]
  simp [Plan.ofGraph, Plan.overflow?, h, he]

/-- **Declarations come to an end, and what is left out is told of.** However the scripts of
entities call for each other, the recursion through them has one solution, by which a declaration is
run. None of them is run below the greatest depth, and if no script calls for more than `k` others,
then there are at most `1 + k + … + k ^ 8` of them, the declaration included. Marked are the edges
of just those statements that call for the script of their entity at a site of depth 8 or more, in
ascending order and none twice; every edge but those to pivot tables is of one statement. Where any
is marked, there is no query, and the error is about the target of the first. -/
theorem Script.truncation_told {schema : Schema} {script : Script} {k : Nat}
    (hscript : script.nests ≤ k) (hschema : ∀ key, (schema.relations key).nests ≤ k) (e : Entity) :
    let d := script.declare schema e
    let statements := script.declared schema e
    ((∃! expand, schema.Recurses expand) ∧ ∀ expand, schema.Recurses expand →
        d = script.run schema expand (.ofEntity e) { graph := { root := e.tableRef } }) ∧
      ((∀ depth ∈ d.expansions, depth ≤ maxDepth) ∧
        d.expansions.length + 1 ≤ ∑ i ∈ Finset.range (maxDepth + 1), k ^ i) ∧
      (statements.Pairwise (·.id < ·.id) ∧
        (∀ x ∈ statements, ∃ f, d.graph.edge? x.id = some f ∧ f.bridge = false ∧
          f.entity = x.related.map schema.entity) ∧
        ∀ i f, d.graph.edge? i = some f → f.bridge = false → ∃ x ∈ statements, x.id = i) ∧
      ((∀ i, i ∈ d.graph.overflowed ↔ ∃ x ∈ statements, x.id = i ∧
          .nest ∈ x.settings ∧ x.related ≠ none ∧ maxDepth ≤ x.depth) ∧
        d.graph.overflowed.Pairwise (· < ·)) ∧
      ∀ i rest, d.graph.overflowed = i :: rest → ∃ f, d.graph.edge? i = some f ∧
        ∀ root criteria t,
          d.graph.compile root criteria t = .error (.unresolvable f.target.name .tooDeep) := by
  intro d statements
  have hlists : Graph.Lists schema { root := e.tableRef } statements d.graph :=
    script.lists_declare schema e
  have hmarks : d.graph.overflowed =
      (statements.filter (Declared.CutOff ·)).map Declared.id := by
    rw [hlists.overflowed]
    exact List.nil_append _
  have hmem (i : Nat) : i ∈ d.graph.overflowed ↔ ∃ x ∈ statements, x.id = i ∧
      .nest ∈ x.settings ∧ x.related ≠ none ∧ maxDepth ≤ x.depth := by
    rw [hmarks, List.mem_map]
    refine exists_congr fun x => ?_
    rw [List.mem_filter, decide_eq_true_iff, Declared.CutOff]
    tauto
  obtain ⟨hlength, hdeep⟩ := script.declare_runs hscript hschema e
  have hunique : ∃! expand, schema.Recurses expand :=
    ⟨_, Schema.recurses_expand, fun _ h => h.unique Schema.recurses_expand⟩
  have hlisted : ∀ i f, d.graph.edge? i = some f → f.bridge = false → ∃ x ∈ statements, x.id = i :=
    fun i f => hlists.listed i f (Nat.zero_le i)
  refine ⟨⟨hunique, fun expand h => script.declare_eq h e⟩, ⟨hdeep, hlength⟩,
    ⟨hlists.ascending, hlists.edge, hlisted⟩, ⟨hmem, ?_⟩, fun i rest h => ?_⟩
  · rw [hmarks, List.pairwise_map]
    exact hlists.ascending.filter _
  · obtain ⟨x, hx, hid, -⟩ := (hmem i).mp (h ▸ List.mem_cons_self)
    obtain ⟨f, hf, -⟩ := hlists.edge x hx
    rw [hid] at hf
    exact ⟨f, hf, fun root criteria t => Graph.compile_of_overflowed h hf root criteria t⟩

/-- Replies to replies, without end. -/
def Schema.endless : Schema where
  entity key := { name := key, table := key ++ "s", asName := "the_" ++ key }
  relations _ := .unkeyed
    (.relate (.many "reply") [.condition ⟨"id", .eq, "reply_id"⟩, .nest] .done .done)

theorem Script.endless_told :
    let script := Schema.endless.relations "post"
    let d := script.declare .endless (Schema.endless.entity "post")
    (∀ key, (Schema.endless.relations key).nests ≤ 1) ∧ d.expansions.length = 8 ∧
      d.graph.overflowed = [8] ∧ ∀ root criteria t,
        d.graph.compile root criteria t = .error (.unresolvable "replys" .tooDeep) := by
  intro script d
  have hnests (key : EntityKey) : (Schema.endless.relations key).nests ≤ 1 := Nat.le_refl 1
  have hmarks : d.graph.overflowed = [8] := by decide
  obtain ⟨-, -, -, -, htold⟩ :=
    truncation_told (hnests "post") hnests (Schema.endless.entity "post")
  obtain ⟨f, hf, hcompile⟩ := htold 8 [] hmarks
  have htarget : (d.graph.edge? 8).map (·.target.name) = some "replys" := by decide
  rw [hf, Option.map_some, Option.some.injEq] at htarget
  refine ⟨hnests, by decide, hmarks, fun root criteria t => ?_⟩
  rw [hcompile, htarget]

end RelationQuery
