import RelationQuery.Proofs.Relation.Growth
import RelationQuery.Proofs.Text.Undotted

/-!
What the edges of plain scripts are tied by. A script is plain if no alias is empty, no column
that it compares has a qualifier, and no table but those brought in is declared a source. Then
every edge is compared under the alias of its source, which is the target of its anchor.
-/

namespace RelationQuery

open Text (Undotted)

structure Entity.Plain (e : Entity) : Prop where
  named : e.asName ≠ ""
  id : Undotted e.idColumn

def Relating.Plain : Relating → Prop
  | .join _ target => target.asName ≠ ""
  | .one _ | .many _ => True
  | .belongsToMany _ p =>
    (∀ self other, (p.tableRef self other).asName ≠ "") ∧
      ∀ key, p.otherKey = some key → Undotted key

def Setting.Plain : Setting → Prop
  | .condition c | .andCondition c => Undotted c.left
  | _ => True

def Rule.plain : Rule where
  relate r settings := r.Plain ∧ ∀ setting ∈ settings, setting.Plain
  within _ := False

lemma Predicate.mem_terms_add {p : Predicate} {c d : Condition} (h : d ∈ (p.add c).terms) :
    d ∈ p.terms ∨ d = c := by
  cases p <;> simpa [Predicate.add, Predicate.terms] using h

/-- A plain setting compares no column under a qualifier. -/
lemma Setting.terms_change {setting : Setting} (hplain : setting.Plain) {e : Edge} {c : Condition}
    (h : c ∈ (setting.change e).predicate.terms) : c ∈ e.predicate.terms ∨ Undotted c.left := by
  cases setting with
  | condition d =>
    obtain rfl : c = d := by simpa [Setting.change, Predicate.terms] using h
    exact .inr hplain
  | andCondition d =>
    rcases Predicate.mem_terms_add h with h | rfl
    · exact .inl h
    · exact .inr hplain
  | kind k =>
    simp only [Setting.change, Edge.withKind] at h
    split at h
    · cases h
    · exact .inl h
  | shared column => cases h
  | noPredicate => cases h
  | _ => exact .inl h

namespace Graph

/-- `source` is the target of the anchor, or the root where there is none. -/
def Leads (g : Graph) (anchor : Option Nat) (source : Table) : Prop :=
  match anchor with
  | none => source = g.root
  | some a => ∃ f, g.edge? a = some f ∧ f.target = source

lemma Leads.extends {g g' : Graph} (hext : g.Extends g') {anchor : Option Nat} {source : Table}
    (h : g.Leads anchor source) : g'.Leads anchor source := by
  cases anchor with
  | none =>
    have : source = g.root := h
    exact this.trans hext.root.symm
  | some a =>
    obtain ⟨f, hf, htarget⟩ := h
    obtain ⟨k, hk, hgrows⟩ := hext.edge _ _ hf
    exact ⟨k, hk, hgrows.target.trans htarget⟩

/-- An edge of a plain script. -/
structure Tied (g : Graph) (e : Edge) : Prop where
  source : g.Leads e.anchor e.source
  named : e.target.asName ≠ ""
  entity : ∀ x, e.entity = some x → Undotted x.idColumn
  left : ∀ c ∈ e.predicate.terms, Undotted c.left

def AllTied (g : Graph) : Prop := ∀ i e, g.edge? i = some e → e.id = i ∧ g.Tied e

variable {g g' : Graph}

lemma Tied.extends (hext : g.Extends g') {e : Edge} (h : g.Tied e) : g'.Tied e :=
  ⟨h.source.extends hext, h.named, h.entity, h.left⟩

lemma AllTied.push (h : g.AllTied) (follows : Option Nat) {e : Edge} (he : g.Tied e) :
    (g.push follows e).AllTied := by
  have hext := g.extends_push follows e
  intro i k hk
  by_cases hi : i = g.size
  · subst hi
    rw [edge?_push_self] at hk
    cases hk
    have hnew := he.extends hext
    exact ⟨rfl, hnew.source, hnew.named, hnew.entity, hnew.left⟩
  · obtain ⟨f, next, hf, rfl⟩ := edge?_push_old hk hi
    obtain ⟨hid, htied⟩ := h i f hf
    have hold := htied.extends hext
    exact ⟨hid, hold.source, hold.named, hold.entity, hold.left⟩

lemma AllTied.change (h : g.AllTied) (id : Nat) {setting : Setting} (hplain : setting.Plain) :
    (g.update id setting.change).AllTied := by
  have hext := g.extends_update setting.change_grows id
  intro i k hk
  rw [edge?_update] at hk
  split at hk
  · obtain ⟨e, he, rfl⟩ := Option.map_eq_some_iff.mp hk
    have hgrows := setting.change_grows e
    obtain ⟨hid, htied⟩ := h i e he
    have hold := htied.extends hext
    refine ⟨hgrows.id.trans hid, ?_, ?_, ?_, ?_⟩
    · rw [hgrows.anchor, hgrows.source]
      exact hold.source
    · rw [hgrows.target]
      exact hold.named
    · rw [hgrows.entity]
      exact hold.entity
    · intro c hc
      rcases Setting.terms_change hplain hc with hterm | hleft
      · exact hold.left c hterm
      · exact hleft
  · obtain ⟨hid, htied⟩ := h i k hk
    exact ⟨hid, htied.extends hext⟩

end Graph

/-- A site that a plain script declares relations at. -/
structure Site.Plain (g : Graph) (s : Site) : Prop where
  source : g.Leads s.anchor s.source
  id : Undotted s.sourceId

lemma Site.Plain.extends {g g' : Graph} (hext : g.Extends g') {s : Site} (h : s.Plain g) :
    s.Plain g' := ⟨h.source.extends hext, h.id⟩

lemma Site.left_predicate {s : Site} (h : Undotted s.sourceId) :
    ∀ c ∈ s.predicate.terms, Undotted c.left := by
  intro c hc
  unfold Site.predicate at hc
  split at hc
  · obtain rfl := List.mem_singleton.mp hc
    exact h
  · cases hc

namespace Graph

variable {g : Graph} {s : Site}

lemma tied_edge (hs : s.Plain g) (kind : JoinKind) {target : Table} {entity : Option Entity}
    (hname : target.asName ≠ "") (hentity : ∀ x, entity = some x → Undotted x.idColumn) :
    g.Tied (s.edge kind target entity) where
  source := hs.source
  named := hname
  entity := hentity
  left := Site.left_predicate hs.id

lemma tied_bridge (hs : s.Plain g) (p : Pivot) {target : Table} (hname : target.asName ≠ "") :
    g.Tied (s.bridge p target) where
  source := hs.source
  named := hname
  entity := by rintro x ⟨⟩
  left := by
    intro c hc
    obtain rfl := List.mem_singleton.mp hc
    exact hs.id

lemma tied_related {p : Pivot} {source : Table} {bridge : Nat} {e : Entity} (he : e.Plain)
    (hkey : ∀ key, p.otherKey = some key → Undotted key)
    (hbridge : g.Leads (some bridge) source) : g.Tied (p.related source bridge e) where
  source := hbridge
  named := he.named
  entity := by
    rintro x ⟨rfl⟩
    exact he.id
  left := by
    intro c hc
    obtain rfl := List.mem_singleton.mp hc
    show Undotted (p.otherKey.getD (Pivot.keyName e.baseName))
    cases hother : p.otherKey with
    | some key => exact hkey key hother
    | none => exact (Text.undotted_snake e.name).append (by decide)

/-- That all edges are tied as an invariant of runs. -/
def tiedInvariant (schema : Schema) (hentity : ∀ key, (schema.entity key).Plain) :
    Invariant schema .plain where
  Holds := AllTied
  Fits g s := s.Plain g
  Resumes g s := s.Plain g
  Ready _ _ settings := ∀ setting ∈ settings, setting.Plain
  resumes_extends hext h := h.extends hext
  fits_of_resumes _ h := h
  fits_within h _ := h.elim
  fits_keyedBy h := ⟨h.source, h.id⟩
  fits_unkeyed h := ⟨h.source, h.id⟩
  change h hready _ := ⟨h.change _ (hready _ List.mem_cons_self), fun setting hmem =>
    hready setting (List.mem_cons_of_mem _ hmem)⟩
  nested hready _ _ setting hmem := hready setting (List.mem_cons_of_mem _ hmem)
  below := by
    intro g id settings e depth h _ he
    obtain ⟨hid, htied⟩ := h id e he
    refine ⟨⟨e, by rw [hid, he], rfl⟩, ?_⟩
    simp only [Site.below]
    cases hentity : e.entity with
    | none => decide
    | some x => exact htied.entity x hentity
  markOverflowed := by
    intro g id h i e he
    rw [edge?_markOverflowed] at he
    obtain ⟨hid, htied⟩ := h i e he
    exact ⟨hid, htied.extends (g.extends_markOverflowed id)⟩
  place := by
    rintro r settings s d ⟨hr, hsettings⟩ h hs
    have hone : ∀ e : Edge, d.graph.Tied e → let g := d.graph.push s.pending e
        g.AllTied ∧ (∀ setting ∈ settings, setting.Plain) ∧ (s.advance (g.size - 1)).Plain g := by
      intro e he
      have hs' := hs.extends (d.graph.extends_push s.pending e)
      exact ⟨h.push _ he, hsettings, hs'.source, hs'.id⟩
    cases r with
    | join kind target =>
      have htied : d.graph.Tied (s.edge .inner target none) := by
        refine tied_edge hs .inner hr ?_
        rintro x ⟨⟩
      refine hone _ ?_
      unfold Edge.withKind
      split
      · exact ⟨htied.source, htied.named, htied.entity, by rintro c ⟨⟩⟩
      · exact ⟨htied.source, htied.named, htied.entity, htied.left⟩
    | one key =>
      refine hone _ (tied_edge hs .left (hentity key).named ?_)
      rintro x ⟨rfl⟩
      exact (hentity key).id
    | many key =>
      set e := schema.entity key
      have htied : d.graph.Tied (s.edge .left e.tableRef e) := by
        refine tied_edge hs .left (hentity key).named ?_
        rintro x ⟨rfl⟩
        exact (hentity key).id
      exact hone _ ⟨htied.source, htied.named, htied.entity, htied.left⟩
    | belongsToMany key p =>
      obtain ⟨hname, hkey⟩ := hr
      set e := schema.entity key
      set target := p.tableRef s.base e.baseName
      set bridged := d.graph.push s.pending (s.bridge p target)
      have hbridged : bridged.AllTied := h.push _ (tied_bridge hs p (hname _ _))
      have hleads : bridged.Leads (some d.graph.size) target :=
        ⟨_, d.graph.edge?_push_self _ _, rfl⟩
      have hrelated := tied_related (hentity key) hkey hleads
      have hext := (d.graph.extends_push s.pending (s.bridge p target)).trans
        (bridged.extends_push (some d.graph.size) (p.related target d.graph.size e))
      have hs' := hs.extends hext
      rw [Relating.graph_place_belongsToMany]
      exact ⟨hbridged.push _ hrelated, hsettings, hs'.source, hs'.id⟩

end Graph

/-- **Edges of plain scripts** are compared under the alias of their source, and that is the
target of their anchor, or the root's table. -/
theorem Script.allTied_declare {schema : Schema} (hentity : ∀ key, (schema.entity key).Plain)
    (hschema : schema.Obeys .plain) {script : Script} (hscript : script.Obeys .plain) {e : Entity}
    (he : e.Plain) : (script.declare schema e).graph.AllTied := by
  refine (Graph.tiedInvariant schema hentity).declare hschema hscript ?_ ⟨rfl, he.id⟩
  intro i k hk
  simp [Graph.edge?] at hk

end RelationQuery
