import RelationQuery.Proofs.Relation.Chain

/-!
Edges that have lost their place. An edge goes to the chain of its anchor if that has one when the
edge is made. If the anchor is made to-many only afterwards, the edge stays outside the chain that
begins there. This happens in no script that leaves no `many` behind a `nest`.
-/

namespace RelationQuery

/-- No edge is made to-many after the script of its entity was run below it. -/
def Rule.orderly : Rule where
  relate _ settings := settings.Pairwise fun earlier later => earlier = .nest → later ≠ .many
  within _ := False

namespace Graph

/-- The edge is on no chain, though it was declared at an edge that is to-many. -/
def Stray (g : Graph) (e : Edge) : Prop :=
  e.prev = none ∧ ∃ a f, e.anchor = some a ∧ g.edge? a = some f ∧ f.many = true

/-- Some edge was declared at `a` that is on no chain. -/
def Frees (g : Graph) (a : Nat) : Prop :=
  ∃ i e, g.edge? i = some e ∧ e.anchor = some a ∧ e.prev = none

structure Tidy (g : Graph) : Prop where
  wf : g.WellFormed
  single : ∀ {a f}, g.Frees a → g.edge? a = some f → f.many = false

variable {g g' : Graph} {a : Nat}

lemma Tidy.not_stray (h : g.Tidy) {i : Nat} {e : Edge} (he : g.edge? i = some e) :
    ¬ g.Stray e := by
  rintro ⟨hprev, a, f, ha, hf, hmany⟩
  have := h.single ⟨i, e, he, ha, hprev⟩ hf
  rw [hmany] at this
  cases this

lemma Frees.extends (hext : g.Extends g') (h : g.Frees a) : g'.Frees a := by
  obtain ⟨i, e, he, ha, hprev⟩ := h
  obtain ⟨k, hk, hgrows⟩ := hext.edge _ _ he
  exact ⟨i, k, hk, hgrows.anchor.trans ha, hgrows.prev.trans hprev⟩

/-- Where a site declares edges outside all chains, its anchor is no to-many edge. -/
def Opens (g : Graph) (s : Site) : Prop :=
  s.pending = none → ∀ a, s.anchor = some a → ∃ f, g.edge? a = some f ∧ f.many = false

/-- Setting an edge frees none. -/
lemma Frees.of_change {id : Nat} {setting : Setting} (h : (g.update id setting.change).Frees a) :
    g.Frees a := by
  obtain ⟨i, k, hk, ha, hprev⟩ := h
  rw [edge?_update] at hk
  split at hk
  · obtain ⟨e, he, rfl⟩ := Option.map_eq_some_iff.mp hk
    have hgrows := setting.change_grows e
    exact ⟨i, e, he, hgrows.anchor ▸ ha, hgrows.prev ▸ hprev⟩
  · exact ⟨i, k, hk, ha, hprev⟩

/-- A new edge may free its anchor only. -/
lemma Frees.of_push {follows : Option Nat} {e : Edge} (h : (g.push follows e).Frees a) :
    g.Frees a ∨ e.anchor = some a ∧ follows = none := by
  obtain ⟨i, k, hk, ha, hprev⟩ := h
  by_cases hi : i = g.size
  · subst hi
    rw [edge?_push_self] at hk
    cases hk
    exact .inr ⟨ha, by simpa using hprev⟩
  · obtain ⟨f, next, hf, rfl⟩ := edge?_push_old hk hi
    exact .inl ⟨i, f, hf, ha, hprev⟩

lemma Tidy.change (h : g.Tidy) {id : Nat} {setting : Setting}
    (hmany : setting = .many → ¬ g.Frees id) : (g.update id setting.change).Tidy where
  wf := h.wf.update (Setting.change_grows _) (Setting.next_change _) _
  single := by
    intro a f hfrees hf
    have hold := hfrees.of_change
    rw [edge?_update] at hf
    split at hf
    · rename_i hid
      subst hid
      obtain ⟨e, he, rfl⟩ := Option.map_eq_some_iff.mp hf
      by_cases hset : setting = .many
      · exact absurd hold (hmany hset)
      · rw [Setting.many_change hset]
        exact h.single hold he
    · exact h.single hold hf

lemma Tidy.push (h : g.Tidy) {follows : Option Nat} {e : Edge}
    (hallows : g.Allows follows e.anchor)
    (hopens : follows = none → ∀ a, e.anchor = some a → ∃ f, g.edge? a = some f ∧ f.many = false) :
    (g.push follows e).Tidy where
  wf := h.wf.push hallows
  single := by
    intro a f hfrees hf
    have hlt : a < g.size := by
      rcases hfrees.of_push with ⟨i, k, hk, ha, -⟩ | ⟨ha, rfl⟩
      · exact Nat.lt_trans (h.wf.anchor_lt hk ha) (lt_size_of_edge? hk)
      · obtain ⟨k, hk, -⟩ := hopens rfl a ha
        exact lt_size_of_edge? hk
    obtain ⟨k, next, hk, rfl⟩ := edge?_push_old hf (Nat.ne_of_lt hlt)
    rcases hfrees.of_push with hold | ⟨ha, rfl⟩
    · have hsingle := h.single hold hk
      exact hsingle
    · obtain ⟨k', hk', hsingle⟩ := hopens rfl a ha
      rw [hk] at hk'
      cases hk'
      exact hsingle

/-- An edge that has just been made has freed nothing. -/
lemma Tidy.not_frees_of_push (h : g.Tidy) {follows : Option Nat} {e : Edge}
    (hallows : g.Allows follows e.anchor) : ¬ (g.push follows e).Frees g.size := by
  rintro hfrees
  rcases hfrees.of_push with ⟨i, k, hk, ha, -⟩ | ⟨ha, rfl⟩
  · have := h.wf.anchor_lt hk ha
    have := lt_size_of_edge? hk
    omega
  · have := h.wf.lt_size_of_allows (ha ▸ hallows)
    omega

/-- An edge that is made outside all chains frees its anchor. -/
lemma frees_of_push {e : Edge} (ha : e.anchor = some a) : (g.push none e).Frees a :=
  ⟨g.size, _, g.edge?_push_self none e, ha, rfl⟩

/-- The edges of a statement free the anchor of their site at most. -/
lemma Tidy.place {schema : Schema} {s : Site} {d : Draft} (h : d.graph.Tidy)
    (hallows : d.graph.Allows s.pending s.anchor) (hopens : d.graph.Opens s) (r : Relating) :
    let g := (r.place schema s d).graph
    g.Tidy ∧ ¬ g.Frees (g.size - 1) ∧
      (s.pending = none → ∀ a, s.anchor = some a → g.Frees a ∧ a < g.size) := by
  have hone : ∀ e : Edge, e.anchor = s.anchor → let g := d.graph.push s.pending e
      g.Tidy ∧ ¬ g.Frees (g.size - 1) ∧
        (s.pending = none → ∀ a, s.anchor = some a → g.Frees a ∧ a < g.size) := by
    intro e he
    rw [← he] at hallows
    refine ⟨h.push hallows (he ▸ hopens), ?_, fun hpending a ha => ?_⟩
    · rw [size_push, Nat.add_sub_cancel]
      exact h.not_frees_of_push hallows
    · obtain ⟨f, hf, -⟩ := hopens hpending a ha
      have hlt := lt_size_of_edge? hf
      rw [hpending]
      exact ⟨frees_of_push (he.trans ha), by rw [size_push]; omega⟩
  cases r with
  | join kind target => exact hone _ (by unfold Edge.withKind; split <;> rfl)
  | one key => exact hone _ rfl
  | many key => exact hone _ rfl
  | belongsToMany key p =>
    set e := schema.entity key
    set target := p.tableRef s.base e.baseName
    obtain ⟨hbridged, -, hfree⟩ := hone (s.bridge p target) rfl
    set bridged := d.graph.push s.pending (s.bridge p target)
    -- the related entity stands behind its bridge and frees nothing
    have hbehind : bridged.Allows (some d.graph.size) (some d.graph.size) :=
      ⟨_, _, rfl, .refl, d.graph.edge?_push_self _ _, by simp [Edge.inChain, Site.bridge]⟩
    rw [Relating.graph_place_belongsToMany]
    refine ⟨hbridged.push hbehind (by rintro ⟨⟩), ?_, fun hpending a ha => ?_⟩
    · rw [size_push, Nat.add_sub_cancel]
      exact hbridged.not_frees_of_push hbehind
    · obtain ⟨hfrees, hlt⟩ := hfree hpending a ha
      refine ⟨hfrees.extends (bridged.extends_push _ _), ?_⟩
      rw [size_push]
      exact Nat.lt_succ_of_lt hlt

/-- That no edge is astray as an invariant of runs. -/
def tidyInvariant (schema : Schema) : Invariant schema .orderly where
  Holds := Tidy
  Fits g s := g.Allows s.pending s.anchor ∧ g.Opens s
  Resumes g s := g.Allows s.pending s.anchor ∧
    (s.pending = none → ∀ a, s.anchor = some a → g.Frees a ∧ a < g.size)
  Ready g id settings :=
    settings.Pairwise (fun earlier later => earlier = .nest → later ≠ .many) ∧
      (.many ∈ settings → ¬ g.Frees id)
  resumes_extends := by
    rintro g g' s hext ⟨hallows, hfrees⟩
    refine ⟨hallows.extends hext, fun hpending a ha => ?_⟩
    obtain ⟨hfree, hlt⟩ := hfrees hpending a ha
    exact ⟨hfree.extends hext, Nat.lt_of_lt_of_le hlt hext.size_le⟩
  fits_of_resumes := by
    rintro g s h ⟨hallows, hfrees⟩
    refine ⟨hallows, fun hpending a ha => ?_⟩
    obtain ⟨hfree, hlt⟩ := hfrees hpending a ha
    obtain ⟨f, hf⟩ := edge?_of_lt hlt
    exact ⟨f, hf, h.single hfree hf⟩
  fits_within h _ := h.elim
  fits_keyedBy h := h
  fits_unkeyed h := h
  change := by
    rintro g id setting rest h ⟨horder, hmany⟩ -
    refine ⟨h.change ?_, (List.pairwise_cons.mp horder).2, fun hmem hfrees => ?_⟩
    · rintro rfl
      exact hmany List.mem_cons_self
    · exact hmany (List.mem_cons_of_mem _ hmem) hfrees.of_change
  nested := by
    rintro g g' id rest ⟨horder, -⟩ - -
    obtain ⟨hbehind, hrest⟩ := List.pairwise_cons.mp horder
    exact ⟨hrest, fun hmem => absurd rfl (hbehind _ hmem rfl)⟩
  below := by
    intro g id settings e depth h _ he
    refine ⟨h.wf.allows_below he depth, fun hpending a ha => ?_⟩
    obtain rfl : e.id = a := Option.some.inj ha
    refine ⟨e, by rw [h.wf.id he, he], ?_⟩
    have hchain : e.inChain ≠ true := fun hchain => by simp [Site.below, hchain] at hpending
    simp only [Edge.inChain, Bool.not_eq_true, Bool.or_eq_false_iff] at hchain
    exact hchain.1
  markOverflowed := by
    intro g id h
    refine ⟨h.wf.markOverflowed id, fun {a f} hfrees hf => ?_⟩
    rw [edge?_markOverflowed] at hf
    refine h.single ?_ hf
    obtain ⟨i, e, he, hfree⟩ := hfrees
    exact ⟨i, e, by rwa [edge?_markOverflowed] at he, hfree⟩
  place := by
    rintro r settings s d horder h ⟨hallows, hopens⟩
    have hrule : ({} : Rule).relate r settings := trivial
    obtain ⟨-, -, hadvanced⟩ := (chainInvariant schema).place hrule h.wf hallows
    obtain ⟨htidy, hfrees, hfree⟩ := h.place hallows hopens r
    refine ⟨htidy, ⟨horder, fun _ => hfrees⟩, hadvanced, fun hpending => hfree ?_⟩
    simpa [Site.advance] using hpending

lemma tidy_empty (root : Table) : ({ root } : Graph).Tidy where
  wf := .empty root
  single := by
    intro a f _ hf
    simp [edge?] at hf

end Graph

/-- **No edge is astray** in the graph of an orderly script: what was declared at a to-many edge is
on its chain. -/
theorem Script.not_stray {schema : Schema} (hschema : schema.Obeys .orderly) {script : Script}
    (hscript : script.Obeys .orderly) {entity : Entity} {i : Nat} {e : Edge}
    (he : (script.declare schema entity).graph.edge? i = some e) :
    ¬ (script.declare schema entity).graph.Stray e := by
  have htidy := (Graph.tidyInvariant schema).declare hschema hscript
    (Graph.tidy_empty entity.tableRef) ⟨by rintro a ⟨⟩, by rintro - a ⟨⟩⟩
  exact Graph.Tidy.not_stray htidy he

end RelationQuery
