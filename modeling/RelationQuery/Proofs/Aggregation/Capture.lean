import RelationQuery.Proofs.Aggregation.Scope

/-!
Where nested levels take the row around them for one of their own. The scalar form of a level
compares its key with a column of the row around it, under the alias that the row's table has
there. If a table of the level goes by that alias too, the comparison is between columns of the
level itself. Aliases come from entities, so this is so wherever an entity is nested in itself.
-/

namespace RelationQuery

namespace Graph

/-- `e` is read by the level that `d` starts: it is `d` or joined to it. -/
def ReadsIn (g : Graph) (d e : Edge) : Prop := e = d ∨ e.many = false ∧ g.NearestMany e.id d.id

/-- The level that `d` starts has something to emit: a column or a level nested in it. -/
def EmitsAt (g : Graph) (r : Nat) (d : Edge) : Prop :=
  ∃ e ∈ g.chain r, g.ReadsIn d e ∧ e.columns ≠ [] ∨ e.many = true ∧ g.NearestMany e.id d.id

end Graph

namespace Outline

/-- The comparison with the row around a level is the only filter of the level. -/
lemma EmitsAs.captures_iff {o : Outline} {L : Level} (h : o.EmitsAs L) (aggregate : String) :
    (L.scalarSelect aggregate).Captures ↔
      ∃ e ∈ o.edges, L.correlation.outer.qualifier = some e.target.exposed := by
  have hscope : (L.scalarSelect aggregate).scope = o.edges.map (·.target.exposed) := h.scope
  unfold Select.Captures
  rw [hscope]
  simp [Level.scalarSelect]

section Root

variable {g : Graph} {r : Nat} {root : Edge} (wf : g.WellFormed) (hr : g.edge? r = some root)
  (hmany : root.many = true) (hhead : root.prev = none)
include wf hr hmany hhead

/-- The levels inside that of the root start at edges of the chain. -/
lemma mem_flatten_nested {l : Outline} : l ∈ (ofEdge g root).nested.flatMap flatten ↔
    l ∈ (ofEdge g root).flatten ∧ l.root ∈ g.chain r := by
  obtain ⟨hroot, hread⟩ := isRead_ofEdge wf hr hmany
  have hid := wf.id hr
  have hnodup := roots_nodup wf hread
  rw [flatten_eq, List.map_cons, List.nodup_cons] at hnodup
  rw [flatten_eq, List.mem_cons]
  constructor
  · intro hl
    refine ⟨.inr hl, ?_⟩
    have hmem : l ∈ (ofEdge g root).flatten := by
      rw [flatten_eq]
      exact List.mem_cons_of_mem _ hl
    rcases (mem_roots wf hr hmany hhead).mp (List.mem_map_of_mem hmem) with heq | hchain
    · refine absurd (List.mem_map.mpr ⟨l, hl, ?_⟩) hnodup.1
      rw [heq, hroot]
    · exact hchain.1
  · rintro ⟨rfl | hl, hchain⟩
    · have hlt := wf.lt_of_mem_chain hchain
      rw [hroot, hid] at hlt
      omega
    · exact hl

lemma mem_edges_iff {l : Outline} (hl : l ∈ (ofEdge g root).nested.flatMap flatten) {e : Edge} :
    e ∈ l.edges ↔ e ∈ g.chain r ∧ g.ReadsIn l.root e := by
  obtain ⟨hmem, hchain⟩ := (mem_flatten_nested wf hr hmany hhead).mp hl
  rw [edges, List.mem_cons, mem_members_level wf hr hmany hmem, Graph.ReadsIn, and_or_left]
  refine or_congr_left ⟨?_, And.right⟩
  rintro rfl
  exact ⟨hchain, rfl⟩

lemma content_iff {l : Outline} (hl : l ∈ (ofEdge g root).nested.flatMap flatten) :
    l.edges.flatMap slots ≠ [] ∨ l.nested ≠ [] ↔ g.EmitsAt r l.root := by
  obtain ⟨hmem, -⟩ := (mem_flatten_nested wf hr hmany hhead).mp hl
  have hcolumns : l.edges.flatMap slots ≠ [] ↔
      ∃ e ∈ g.chain r, g.ReadsIn l.root e ∧ e.columns ≠ [] := by
    simp only [ne_eq, List.flatMap_eq_nil_iff, slots, List.map_eq_nil_iff, not_forall,
      mem_edges_iff wf hr hmany hhead hl, exists_prop, and_assoc]
  have hnested : l.nested ≠ [] ↔
      ∃ e ∈ g.chain r, e.many = true ∧ g.NearestMany e.id l.root.id := by
    constructor
    · intro hne
      obtain ⟨c, hc⟩ := List.exists_mem_of_ne_nil _ hne
      exact ⟨c.root, (mem_nested_level wf hr hmany hmem).mp (List.mem_map_of_mem hc)⟩
    · rintro ⟨e, he⟩
      have hstart := (mem_nested_level wf hr hmany hmem).mpr he
      obtain ⟨c, hc, -⟩ := List.mem_map.mp hstart
      exact List.ne_nil_of_mem hc
  rw [hcolumns, hnested, ← exists_or]
  simp only [Graph.EmitsAt, ← and_or_left]

/-- Inside an emitted level, no comparison is captured exactly if no edge of the chain that starts
an emitted level is compared under the name of a table of that level. -/
lemma captures_nested_iff {L : Level} (h : (ofEdge g root).level = .ok (some L)) :
    (∀ inner ∈ L.nested.flatMap Level.flatten, ∀ aggregate,
        ¬ (inner.scalarSelect aggregate).Captures) ↔
      ∀ d ∈ g.chain r, d.many = true → g.EmitsAt r d → ∀ key, d.correlation = .ok key →
        ∀ e ∈ g.chain r, g.ReadsIn d e → key.outer.qualifier ≠ some e.target.exposed := by
  rw [flatten_nested h]
  constructor
  · intro hfree d hd hdmany hemits key hkey e he hreads hsame
    obtain ⟨l, hl, rfl⟩ := List.mem_map.mp ((mem_roots wf hr hmany hhead).mpr (.inr ⟨hd, hdmany⟩))
    have hinside := (mem_flatten_nested wf hr hmany hhead).mpr ⟨hl, hd⟩
    obtain ⟨emission, hlevel, hl⟩ := level_ok_of_mem_flatten h hl
    have hcontent := (content_iff wf hr hmany hhead hinside).mpr hemits
    cases emission with
    | none =>
      rcases hcontent with hcontent | hcontent
      · exact hcontent hl.1
      · exact hcontent hl.2
    | some inner =>
      have hmem := List.mem_filterMap.mpr ⟨l, hinside, emitted_of_level hlevel⟩
      refine hfree inner hmem "" ((EmitsAs.captures_iff hl "").mpr ⟨e, ?_, ?_⟩)
      · exact (mem_edges_iff wf hr hmany hhead hinside).mpr ⟨he, hreads⟩
      · have hcorrelation := hl.correlation
        rw [hkey] at hcorrelation
        rw [← Except.ok.inj hcorrelation, hsame]
  · intro hfree inner hinner aggregate hcaptures
    obtain ⟨l, hinside, hemitted⟩ := List.mem_filterMap.mp hinner
    obtain ⟨hl, hchain⟩ := (mem_flatten_nested wf hr hmany hhead).mp hinside
    have hemits := emitsAs_of_emitted h hl hemitted
    obtain ⟨e, he, hsame⟩ := (hemits.captures_iff aggregate).mp hcaptures
    obtain ⟨hechain, hreads⟩ := (mem_edges_iff wf hr hmany hhead hinside).mp he
    have hdmany := ((isRead_ofEdge wf hr hmany).2 l hl).many
    have hcontent := (content_iff wf hr hmany hhead hinside).mp hemits.content
    exact hfree l.root hchain hdmany hcontent _ hemits.correlation e hechain hreads hsame

end Root

end Outline

/-- **Where no comparison is captured**: inside an array of the root, the comparisons with the row
around them stay clear of the level's own tables exactly if no to-many edge of the chain is
compared under the name of a table of the level that it starts. -/
theorem Script.uncaptured_iff (script : Script) (schema : Schema) (entity : Entity)
    {r : Nat} {L : Level}
    (hr : r ∈ (Placement.ofGraph (script.declare schema entity).graph).aggregations)
    (h : (script.declare schema entity).graph.level r = .ok (some L)) :
    let g := (script.declare schema entity).graph
    (∀ inner ∈ L.nested.flatMap Level.flatten, ∀ aggregate,
        ¬ (inner.scalarSelect aggregate).Captures) ↔
      ∀ d ∈ g.chain r, d.many = true → g.EmitsAt r d → ∀ key, d.correlation = .ok key →
        ∀ e ∈ g.chain r, g.ReadsIn d e → key.outer.qualifier ≠ some e.target.exposed := by
  have wf := script.wellFormed_declare schema entity
  intro g
  obtain ⟨root, hroot, hmany, hhead⟩ := (Placement.mem_aggregations wf).mp hr
  rw [Graph.level, hroot] at h
  exact Outline.captures_nested_iff wf hroot hmany hhead h

theorem Script.thread_uncaptured : ∃ L, 0 ∈ (Placement.ofGraph .ofThread).aggregations ∧
    Graph.ofThread.level 0 = .ok (some L) ∧ L.nested ≠ [] ∧
      ∀ inner ∈ L.nested.flatMap Level.flatten, ∀ aggregate,
        ¬ (inner.scalarSelect aggregate).Captures := by
  have hr : 0 ∈ (Placement.ofGraph .ofThread).aggregations := by decide
  obtain ⟨L, hlevel, hnested⟩ :
      ∃ L, Graph.ofThread.level 0 = .ok (some L) ∧ L.nested ≠ [] :=
    ⟨_, rfl, List.cons_ne_nil _ _⟩
  refine ⟨L, hr, hlevel, hnested, ?_⟩
  refine (thread.uncaptured_iff .unrelated (Schema.unrelated.entity "post") hr hlevel).mpr ?_
  intro d hd hmany _ key hkey e he _
  have hclear : ∀ d ∈ Graph.ofThread.chain 0, d.many = true → ∀ e ∈ Graph.ofThread.chain 0,
      d.correlation.toOption.bind (·.outer.qualifier) ≠ some e.target.exposed := by decide
  simpa [hkey, Except.toOption] using hclear d hd hmany e he

/-- Comments, each with the replies to it. -/
def Schema.replies : Schema where
  entity key := { name := key, table := key ++ "s", asName := "the_" ++ key }
  relations _ := .relate (.many "comment") [.columns [.column "body"], .named "replies"] .done .done

def Script.comments : Script :=
  .relate (.many "comment") [.columns [.column "body"], .nest] .done .done

/-- Replies are compared with themselves, not with the comment around them. -/
theorem Script.replies_captured :
    let g := (comments.declare .replies (Schema.replies.entity "post")).graph
    0 ∈ (Placement.ofGraph g).aggregations ∧ ∃ L, g.level 0 = .ok (some L) ∧
      ∃ inner ∈ L.nested.flatMap Level.flatten, ∀ aggregate,
        (inner.scalarSelect aggregate).Captures := by
  refine ⟨by decide, _, rfl, _, List.mem_cons_self, fun aggregate => ?_⟩
  exact ⟨_, _, _, List.mem_cons_self, _, List.mem_cons_self, rfl⟩

end RelationQuery
