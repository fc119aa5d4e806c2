import RelationQuery.Proofs.Aggregation.Capture
import RelationQuery.Proofs.Aggregation.Keys

/-!
Relations that select nothing. A level is left out if it selects no column and has no level nested
in it, but whether the nested ones are left out themselves is not looked at. So a level may be
emitted without any column, or any array, to make objects of.
-/

namespace RelationQuery

namespace Outline

/-- The level is emitted, but its objects have no entries. -/
def Hollow (o : Outline) : Prop := o.silent = false ∧ o.keys = []

lemma columnSlots_eq_nil_iff {o : Outline} : o.columnSlots = [] ↔ o.edges.flatMap slots = [] := by
  have hperm := (columnOrder_perm o.root o.members).flatMap_right slots
  constructor
  · intro h
    exact List.nil_perm.mp (h ▸ hperm)
  · intro h
    exact List.perm_nil.mp (hperm.trans (List.Perm.of_eq h))

lemma titles_eq_nil_iff {outlines : List Outline} :
    titles outlines = [] ↔ ∀ o ∈ outlines, o.silent = true := by
  simp [titles]

/-- A hollow level has levels nested in it, none of which has anything to emit. -/
lemma hollow_iff {o : Outline} : o.Hollow ↔
    o.edges.flatMap slots = [] ∧ o.nested ≠ [] ∧ ∀ c ∈ o.nested, c.silent = true := by
  rw [Hollow, keys, List.append_eq_nil_iff, List.map_eq_nil_iff, columnSlots_eq_nil_iff,
    titles_eq_nil_iff, ← Bool.not_eq_true, silent_iff, not_and]
  constructor
  · rintro ⟨hspeaks, hslots, hnested⟩
    exact ⟨hslots, hspeaks hslots, hnested⟩
  · rintro ⟨hslots, hne, hnested⟩
    exact ⟨fun _ => hne, hslots, hnested⟩

/-- Where no level is hollow, an outline that selects nothing anywhere is left out. -/
lemma silent_of_slots_eq_nil {o : Outline} (hfull : ∀ l ∈ o.flatten, ¬ l.Hollow)
    (hslots : ∀ l ∈ o.flatten, l.edges.flatMap slots = []) : o.silent = true := by
  induction o using Outline.induction with
  | outline root members nested ih =>
    set o : Outline := ⟨root, members, nested⟩
    have hnested : ∀ c ∈ nested, c.silent = true := by
      intro c hc
      have hsub : ∀ l ∈ c.flatten, l ∈ o.flatten := fun l hl => mem_flatten.mpr (.inr ⟨c, hc, hl⟩)
      exact ih c hc (fun l hl => hfull l (hsub l hl)) fun l hl => hslots l (hsub l hl)
    have hself := hslots o o.mem_flatten_self
    by_contra hspeaks
    refine hfull o o.mem_flatten_self (hollow_iff.mpr ⟨hself, fun hnil => hspeaks ?_, hnested⟩)
    exact silent_iff.mpr ⟨hself, hnil⟩

section Emission

variable {o : Outline} {result : Option Level} (h : o.level = .ok result)
include h

lemma eq_none_iff_silent : result = none ↔ o.silent = true := by
  constructor
  · rintro rfl
    exact silent_of_level h
  · intro hsilent
    cases result with
    | none => rfl
    | some L => simp [(title_of_level h).1] at hsilent

omit h in
/-- The objects of an emitted level are without entries exactly if the level is hollow. -/
lemma hollow_iff_entries {L : Level} (h : o.level = .ok (some L)) (t : Target) :
    o.Hollow ↔ (L.object t).entries = [] := by
  rw [Hollow, ← Level.keys_object h t, ObjectTemplate.keys, List.map_eq_nil_iff]
  exact and_iff_right (title_of_level h).1

/-- The emitted levels all have objects with entries exactly if no level is hollow. -/
lemma entries_ne_nil_iff (t : Target) :
    (∀ L ∈ result.toList.flatMap Level.flatten, (L.object t).entries ≠ []) ↔
      ∀ l ∈ o.flatten, ¬ l.Hollow := by
  rw [flatten_emitted h]
  constructor
  · intro hentries l hl hhollow
    obtain ⟨emission, hlevel, -⟩ := level_ok_of_mem_flatten h hl
    cases emission with
    | none => exact absurd (silent_of_level hlevel) (by simp [hhollow.1])
    | some L =>
      have hmem := List.mem_filterMap.mpr ⟨l, hl, emitted_of_level hlevel⟩
      exact hentries L hmem ((hollow_iff_entries hlevel t).mp hhollow)
  · intro hfull L hL hempty
    obtain ⟨l, hl, hemitted⟩ := List.mem_filterMap.mp hL
    obtain ⟨emission, hlevel, -⟩ := level_ok_of_mem_flatten h hl
    rw [emitted_of_level hlevel] at hemitted
    subst hemitted
    exact hfull l hl ((hollow_iff_entries hlevel t).mpr hempty)

/-- What is left out selects nothing, and all that selects nothing is left out with it, exactly if
no level is hollow. -/
lemma skipped_iff_full (t : Target) :
    ((result = none ↔ ∀ l ∈ o.flatten, l.edges.flatMap slots = []) ∧
      ∀ L ∈ result.toList.flatMap Level.flatten, (L.object t).entries ≠ []) ↔
        ∀ l ∈ o.flatten, ¬ l.Hollow := by
  rw [entries_ne_nil_iff h t, eq_none_iff_silent h]
  refine ⟨And.right, fun hfull => ⟨⟨fun hsilent l hl => ?_, silent_of_slots_eq_nil hfull⟩, hfull⟩⟩
  obtain ⟨hslots, hnested⟩ := silent_iff.mp hsilent
  rcases mem_flatten.mp hl with rfl | ⟨c, hc, -⟩
  · exact hslots
  · simp [hnested] at hc

end Emission

end Outline

/-! ### In the graph -/

namespace Graph

/-- An edge and the edges after it on its chain. -/
def branch (g : Graph) (id : Nat) : List Edge := (g.edge? id).toList ++ g.chain id

lemma branch_eq {g : Graph} {id : Nat} {e : Edge} (he : g.edge? id = some e) :
    g.branch id = e :: g.chain id := by
  rw [branch, he]
  rfl

/-- The level that `d` starts reads no column. -/
def SelectsNothing (g : Graph) (r : Nat) (d : Edge) : Prop :=
  ∀ e ∈ g.branch r, g.ReadsIn d e → e.columns = []

/-- `c` starts a level that is nested in the level that `d` starts. -/
def NestsIn (g : Graph) (d c : Edge) : Prop := c.many = true ∧ g.NearestMany c.id d.id

/-- The level that `d` starts is left out: it reads no column and has no level nested in it. -/
def LeavesOut (g : Graph) (r : Nat) (d : Edge) : Prop :=
  g.SelectsNothing r d ∧ ∀ e ∈ g.chain r, ¬ g.NestsIn d e

/-- The level that `d` starts has nothing to make objects of: it reads no column, and while levels
are nested in it, all of these are left out. -/
structure HollowAt (g : Graph) (r : Nat) (d : Edge) : Prop where
  columns : g.SelectsNothing r d
  nested : ∃ c ∈ g.chain r, g.NestsIn d c
  inside : ∀ c ∈ g.chain r, g.NestsIn d c → g.LeavesOut r c

end Graph

namespace Outline

section Root

variable {g : Graph} {r : Nat} {root : Edge} (wf : g.WellFormed) (hr : g.edge? r = some root)
  (hmany : root.many = true) (hhead : root.prev = none)
include wf hr hmany hhead

lemma mem_edges_level {l : Outline} (hl : l ∈ (ofEdge g root).flatten) {e : Edge} :
    e ∈ l.edges ↔ e ∈ g.branch r ∧ g.ReadsIn l.root e := by
  have hstart := (mem_roots wf hr hmany hhead).mp (List.mem_map_of_mem hl)
  rw [edges, List.mem_cons, mem_members_level wf hr hmany hl, Graph.branch_eq hr,
    List.mem_cons, Graph.ReadsIn]
  constructor
  · rintro (rfl | ⟨hchain, hplain, hnear⟩)
    · exact ⟨hstart.imp_right And.left, .inl rfl⟩
    · exact ⟨.inr hchain, .inr ⟨hplain, hnear⟩⟩
  · rintro ⟨hbranch, heq | ⟨hplain, hnear⟩⟩
    · exact .inl heq
    · rcases hbranch with rfl | hchain
      · simp [hmany] at hplain
      · exact .inr ⟨hchain, hplain, hnear⟩

lemma slots_eq_nil_level {l : Outline} (hl : l ∈ (ofEdge g root).flatten) :
    l.edges.flatMap slots = [] ↔ g.SelectsNothing r l.root := by
  simp only [List.flatMap_eq_nil_iff, slots, List.map_eq_nil_iff,
    mem_edges_level wf hr hmany hhead hl, and_imp, Graph.SelectsNothing]

omit hhead in
lemma nested_eq_nil_level {l : Outline} (hl : l ∈ (ofEdge g root).flatten) :
    l.nested = [] ↔ ∀ e ∈ g.chain r, ¬ g.NestsIn l.root e := by
  have hmem (e : Edge) := mem_nested_level wf hr hmany hl (e := e)
  rw [← List.map_eq_nil_iff (f := Outline.root), List.eq_nil_iff_forall_not_mem]
  simp only [hmem, not_and, Graph.NestsIn]

lemma silent_level_iff {l : Outline} (hl : l ∈ (ofEdge g root).flatten) :
    l.silent = true ↔ g.LeavesOut r l.root := by
  rw [silent_iff, slots_eq_nil_level wf hr hmany hhead hl, nested_eq_nil_level wf hr hmany hl]
  rfl

lemma hollow_level_iff {l : Outline} (hl : l ∈ (ofEdge g root).flatten) :
    l.Hollow ↔ g.HollowAt r l.root := by
  have hsilent {c : Outline} (hc : c ∈ l.nested) :=
    silent_level_iff wf hr hmany hhead (nested_subset hl hc)
  have hnests {e : Edge} := mem_nested_level wf hr hmany hl (e := e)
  rw [hollow_iff, slots_eq_nil_level wf hr hmany hhead hl, ne_eq,
    nested_eq_nil_level wf hr hmany hl]
  constructor
  · rintro ⟨hcolumns, hnested, hinside⟩
    refine ⟨hcolumns, by simpa using hnested, fun e he hin => ?_⟩
    obtain ⟨c, hc, rfl⟩ := List.mem_map.mp (hnests.mpr ⟨he, hin⟩)
    exact (hsilent hc).mp (hinside c hc)
  · rintro ⟨hcolumns, hnested, hinside⟩
    refine ⟨hcolumns, by simpa using hnested, fun c hc => (hsilent hc).mpr ?_⟩
    obtain ⟨hchain, hin⟩ := hnests.mp (List.mem_map_of_mem hc)
    exact hinside c.root hchain hin

lemma slots_eq_nil_branch : (∀ l ∈ (ofEdge g root).flatten, l.edges.flatMap slots = []) ↔
    ∀ e ∈ g.branch r, e.columns = [] := by
  have hedges := edges_perm wf hr hmany hhead
  rw [← List.flatMap_eq_nil_iff, ← List.flatMap_assoc, List.flatMap_eq_nil_iff,
    Graph.branch_eq hr]
  simp only [slots, List.map_eq_nil_iff]
  exact ⟨fun h e he => h e (hedges.mem_iff.mpr he), fun h e he => h e (hedges.mem_iff.mp he)⟩

/-- What is left out selects nothing, and nothing to-many is on its chain. -/
lemma eq_none_iff_branch {result : Option Level} (h : (ofEdge g root).level = .ok result) :
    result = none ↔ (∀ e ∈ g.branch r, e.columns = []) ∧ ∀ e ∈ g.chain r, e.many = false := by
  have hself := mem_flatten_self (ofEdge g root)
  rw [eq_none_iff_silent h, silent_iff, ← slots_eq_nil_branch wf hr hmany hhead]
  constructor
  · rintro ⟨hslots, hnested⟩
    have hflat : (ofEdge g root).flatten = [ofEdge g root] := by
      rw [flatten_eq, hnested, List.flatMap_nil]
    refine ⟨fun l hl => ?_, fun e he => ?_⟩
    · rw [hflat, List.mem_singleton] at hl
      rwa [hl]
    · -- a to-many edge of the chain would start another level
      by_contra hemany
      rw [Bool.not_eq_false] at hemany
      have hstart := (mem_roots wf hr hmany hhead).mpr (.inr ⟨he, hemany⟩)
      rw [hflat, List.map_singleton, List.mem_singleton, (isRead_ofEdge wf hr hmany).1] at hstart
      have hlt := wf.lt_of_mem_chain he
      rw [hstart, wf.id hr] at hlt
      omega
  · rintro ⟨hslots, hplain⟩
    refine ⟨hslots _ hself, (nested_eq_nil_level wf hr hmany hself).mpr ?_⟩
    rintro e he ⟨hemany, -⟩
    simp [hplain e he] at hemany

/-- Each to-many edge starts a level, and these are all levels. -/
lemma forall_starts {p : Edge → Prop} : (∀ l ∈ (ofEdge g root).flatten, p l.root) ↔
    ∀ d ∈ g.branch r, d.many = true → p d := by
  have hstarts {d : Edge} : d ∈ (ofEdge g root).flatten.map Outline.root ↔
      d ∈ g.branch r ∧ d.many = true := by
    rw [mem_roots wf hr hmany hhead, Graph.branch_eq hr, List.mem_cons, or_and_right]
    exact or_congr_left ⟨fun heq => ⟨heq, heq ▸ hmany⟩, And.left⟩
  rw [← List.forall_mem_map (f := Outline.root)]
  exact forall_congr' fun d => by rw [hstarts, and_imp]

lemma full_iff_branch : (∀ l ∈ (ofEdge g root).flatten, ¬ l.Hollow) ↔
    ∀ d ∈ g.branch r, d.many = true → ¬ g.HollowAt r d := by
  rw [← forall_starts wf hr hmany hhead]
  exact forall₂_congr fun l hl => not_congr (hollow_level_iff wf hr hmany hhead hl)

end Root

end Outline

/-- **What is left out**: a relation is left out exactly if nothing is selected along its chain and
no edge of the chain is to-many. To leave out all that selects nothing, and to emit no objects
without entries, there must be no level that reads no column itself and has levels nested in it
that neither read any nor nest any. -/
theorem Script.skipped_iff (script : Script) (schema : Schema) (entity : Entity) (t : Target)
    {r : Nat} {result : Option Level}
    (hr : r ∈ (Placement.ofGraph (script.declare schema entity).graph).aggregations)
    (h : (script.declare schema entity).graph.level r = .ok result) :
    let g := (script.declare schema entity).graph
    (result = none ↔ (∀ e ∈ g.branch r, e.columns = []) ∧ ∀ e ∈ g.chain r, e.many = false) ∧
      (((result = none ↔ ∀ e ∈ g.branch r, e.columns = []) ∧
        ∀ L ∈ result.toList.flatMap Level.flatten, (L.object t).entries ≠ []) ↔
          ∀ d ∈ g.branch r, d.many = true → ¬ g.HollowAt r d) := by
  have wf := script.wellFormed_declare schema entity
  intro g
  obtain ⟨root, hroot, hmany, hhead⟩ := (Placement.mem_aggregations wf).mp hr
  rw [Graph.level, hroot] at h
  refine ⟨Outline.eq_none_iff_branch wf hroot hmany hhead h, ?_⟩
  rw [← Outline.full_iff_branch wf hroot hmany hhead,
    ← Outline.slots_eq_nil_branch wf hroot hmany hhead]
  exact Outline.skipped_iff_full h t

theorem Script.thread_emitted : ∃ L, 0 ∈ (Placement.ofGraph .ofThread).aggregations ∧
    Graph.ofThread.level 0 = .ok (some L) ∧ L.nested ≠ [] ∧
      ∀ t, ∀ inner ∈ L.flatten, (inner.object t).entries ≠ [] := by
  have hr : 0 ∈ (Placement.ofGraph .ofThread).aggregations := by decide
  obtain ⟨L, hlevel, hnested⟩ :
      ∃ L, Graph.ofThread.level 0 = .ok (some L) ∧ L.nested ≠ [] :=
    ⟨_, rfl, List.cons_ne_nil _ _⟩
  have hcolumns : ∀ d ∈ Graph.ofThread.branch 0, d.many = true → d.columns ≠ [] := by decide
  refine ⟨L, hr, hlevel, hnested, fun t => ?_⟩
  have hfull := (thread.skipped_iff .unrelated (Schema.unrelated.entity "post") t hr hlevel).2.mpr
    fun d hd hmany hhollow => hcolumns d hd hmany (hhollow.columns d hd (.inl rfl))
  simpa using hfull.2

/-- Comments and their likes, of which nothing is selected. -/
def Script.bare : Script :=
  let likes := .relate (.many "like") [.condition ⟨"id", .eq, "comment_id"⟩] .done .done
  .unkeyed (.relate (.many "comment") [.condition ⟨"id", .eq, "post_id"⟩] (.unkeyed likes) .done)

/-- The comments are emitted all the same, without an object to make an array of. -/
theorem Script.bare_emitted :
    let g := (bare.declare .unrelated (Schema.unrelated.entity "post")).graph
    0 ∈ (Placement.ofGraph g).aggregations ∧ (∀ e ∈ g.branch 0, e.columns = []) ∧
      ∃ L, g.level 0 = .ok (some L) ∧ ∀ t, (L.object t).entries = [] :=
  ⟨by decide, by decide, _, rfl, fun _ => rfl⟩

end RelationQuery
