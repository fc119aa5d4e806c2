import Mathlib.Tactic.Common
import RelationQuery.Relation.Declaration

/-!
How graphs grow while a script runs. A run appends edges and changes those that it has just
made; where an edge leads and where it stands is fixed when it is made. What a run keeps of a
graph is proved once, from what it means to make an edge, to change it and to go on below it.
-/

namespace RelationQuery

/-- The same edge later on: all that is fixed at its making, and to-many for good. -/
structure Edge.Grows (e f : Edge) : Prop where
  id : f.id = e.id
  source : f.source = e.source
  target : f.target = e.target
  bridge : f.bridge = e.bridge
  entity : f.entity = e.entity
  anchor : f.anchor = e.anchor
  prev : f.prev = e.prev
  many : e.many = true → f.many = true

namespace Edge.Grows

variable {e f h : Edge}

lemma refl (e : Edge) : e.Grows e := ⟨rfl, rfl, rfl, rfl, rfl, rfl, rfl, fun h => h⟩

lemma trans (hef : e.Grows f) (hfh : f.Grows h) : e.Grows h where
  id := hfh.id.trans hef.id
  source := hfh.source.trans hef.source
  target := hfh.target.trans hef.target
  bridge := hfh.bridge.trans hef.bridge
  entity := hfh.entity.trans hef.entity
  anchor := hfh.anchor.trans hef.anchor
  prev := hfh.prev.trans hef.prev
  many := fun hm => hfh.many (hef.many hm)

lemma inChain (hef : e.Grows f) (h : e.inChain = true) : f.inChain = true := by
  simp only [Edge.inChain, Bool.or_eq_true, hef.prev] at h ⊢
  exact h.imp_left hef.many

end Edge.Grows

/-- No setting changes where an edge leads or where it stands. -/
lemma Setting.change_grows (setting : Setting) (e : Edge) : e.Grows (setting.change e) := by
  cases setting with
  | kind k =>
    simp only [Setting.change, Edge.withKind]
    split <;> exact ⟨rfl, rfl, rfl, rfl, rfl, rfl, rfl, fun h => h⟩
  | many => exact ⟨rfl, rfl, rfl, rfl, rfl, rfl, rfl, fun _ => rfl⟩
  | _ => exact ⟨rfl, rfl, rfl, rfl, rfl, rfl, rfl, fun h => h⟩

/-- Only `many` makes an edge to-many. -/
lemma Setting.many_change {setting : Setting} (h : setting ≠ .many) (e : Edge) :
    (setting.change e).many = e.many := by
  cases setting with
  | kind k =>
    simp only [Setting.change, Edge.withKind]
    split <;> rfl
  | many => exact absurd rfl h
  | _ => rfl

lemma Setting.next_change (setting : Setting) (e : Edge) : (setting.change e).next = e.next := by
  cases setting with
  | kind k =>
    simp only [Setting.change, Edge.withKind]
    split <;> rfl
  | _ => rfl

namespace Graph

variable {g g' : Graph}

lemma edge?_update (g : Graph) (id i : Nat) (f : Edge → Edge) :
    (g.update id f).edge? i = if id = i then (g.edge? i).map f else g.edge? i := by
  simp [update, edge?, Array.getElem?_modify]

lemma lt_size_of_edge? {i : Nat} {e : Edge} (h : g.edge? i = some e) : i < g.size := by
  obtain ⟨hi, -⟩ := Array.getElem?_eq_some_iff.mp h
  exact hi

lemma edge?_of_lt {i : Nat} (h : i < g.size) : ∃ e, g.edge? i = some e :=
  ⟨_, Array.getElem?_eq_getElem h⟩

/-- Pushing an edge: the new one at the end, one more link where a chain goes on. -/
lemma edge?_push (g : Graph) (follows : Option Nat) (e : Edge) (i : Nat) :
    (g.push follows e).edge? i =
      if i = g.size then
        some { e with id := g.size, prev := follows.map g.tail, next := none }
      else (g.edge? i).map fun f =>
        if follows.map g.tail = some i then { f with next := some g.size } else f := by
  rcases follows with _ | before
  · simp only [push, edge?, Array.getElem?_push, Option.map_none]
    split <;> rename_i hi <;> simp [size] at hi ⊢ <;> simp [hi]
  · simp only [push, edge?, Array.getElem?_push, Option.map_some, Option.some.injEq]
    have hsize : (g.update (g.tail before) fun f => { f with next := some g.size }).edges.size =
        g.size := g.size_update _ _
    rw [hsize]
    split
    · rfl
    · have h := g.edge?_update (g.tail before) i fun f => { f with next := some g.size }
      simp only [edge?] at h
      rw [h]
      split <;> simp_all

lemma edge?_push_self (g : Graph) (follows : Option Nat) (e : Edge) :
    (g.push follows e).edge? g.size =
      some { e with id := g.size, prev := follows.map g.tail, next := none } := by
  rw [edge?_push, if_pos rfl]

/-- An edge of the grown graph is the new one or an old one, which has another link at most. -/
lemma edge?_push_cases {follows : Option Nat} {e k : Edge} {i : Nat}
    (h : (g.push follows e).edge? i = some k) :
    (i = g.size ∧ k = { e with id := g.size, prev := follows.map g.tail, next := none }) ∨
    (∃ f, g.edge? i = some f ∧ f.Grows k ∧
      k.next = if follows.map g.tail = some i then some g.size else f.next) := by
  rw [edge?_push] at h
  split at h
  · rename_i hi
    exact .inl ⟨hi, (Option.some.inj h).symm⟩
  · obtain ⟨f, hf, hk⟩ := Option.map_eq_some_iff.mp h
    refine .inr ⟨f, hf, ?_⟩
    split at hk <;> rename_i hlast <;> subst hk
    · exact ⟨⟨rfl, rfl, rfl, rfl, rfl, rfl, rfl, fun h => h⟩, by simp [hlast]⟩
    · exact ⟨.refl f, by simp [hlast]⟩

lemma edge?_push_old {follows : Option Nat} {e k : Edge} {i : Nat}
    (h : (g.push follows e).edge? i = some k) (hi : i ≠ g.size) :
    ∃ f next, g.edge? i = some f ∧ k = { f with next } := by
  rw [edge?_push, if_neg hi] at h
  obtain ⟨f, hf, hk⟩ := Option.map_eq_some_iff.mp h
  refine ⟨f, k.next, hf, ?_⟩
  split at hk <;> subst hk <;> rfl

@[simp] lemma edge?_markOverflowed (g : Graph) (id i : Nat) :
    (g.markOverflowed id).edge? i = g.edge? i := by
  simp [edge?]

@[simp] lemma root_markOverflowed (g : Graph) (id : Nat) :
    (g.markOverflowed id).root = g.root := by
  unfold markOverflowed
  split <;> rfl

/-- A later state of a graph. -/
structure Extends (g g' : Graph) : Prop where
  root : g'.root = g.root
  edge : ∀ i e, g.edge? i = some e → ∃ f, g'.edge? i = some f ∧ e.Grows f

namespace Extends

lemma refl (g : Graph) : g.Extends g := ⟨rfl, fun _ e h => ⟨e, h, .refl e⟩⟩

lemma trans {g'' : Graph} (h : g.Extends g') (h' : g'.Extends g'') : g.Extends g'' where
  root := h'.root.trans h.root
  edge := fun i e he => by
    obtain ⟨f, hf, hef⟩ := h.edge i e he
    obtain ⟨k, hk, hfk⟩ := h'.edge i f hf
    exact ⟨k, hk, hef.trans hfk⟩

lemma size_le (h : g.Extends g') : g.size ≤ g'.size := by
  by_contra hlt
  obtain ⟨e, he⟩ := edge?_of_lt (show g'.size < g.size by omega)
  obtain ⟨f, hf, -⟩ := h.edge _ _ he
  exact absurd (lt_size_of_edge? hf) (Nat.lt_irrefl _)

end Extends

lemma extends_update {f : Edge → Edge} (hf : ∀ e : Edge, e.Grows (f e)) (g : Graph) (id : Nat) :
    g.Extends (g.update id f) where
  root := rfl
  edge := fun i e he => by
    rw [edge?_update, he]
    split
    · exact ⟨f e, rfl, hf e⟩
    · exact ⟨e, rfl, .refl e⟩

lemma extends_push (g : Graph) (follows : Option Nat) (e : Edge) :
    g.Extends (g.push follows e) where
  root := by simp
  edge := fun i f hf => by
    have hi : i ≠ g.size := Nat.ne_of_lt (lt_size_of_edge? hf)
    rw [edge?_push, if_neg hi, hf, Option.map_some]
    split
    · exact ⟨_, rfl, ⟨rfl, rfl, rfl, rfl, rfl, rfl, rfl, fun h => h⟩⟩
    · exact ⟨f, rfl, .refl f⟩

lemma extends_markOverflowed (g : Graph) (id : Nat) : g.Extends (g.markOverflowed id) where
  root := by simp
  edge := fun i e he => ⟨e, by simpa using he, .refl e⟩

end Graph

/-! ### Runs -/

/-- What a script may say: a condition on its statements, however deep they stand. -/
structure Rule where
  relate : Relating → List Setting → Prop := fun _ _ => True
  within : Table → Prop := fun _ => True

def Script.Obeys (rule : Rule) : Script → Prop
  | .done => True
  | .relate r settings branch rest =>
    rule.relate r settings ∧ branch.Obeys rule ∧ rest.Obeys rule
  | .within source body rest => rule.within source ∧ body.Obeys rule ∧ rest.Obeys rule
  | .keyedBy _ rest | .unkeyed rest | .observe rest => rest.Obeys rule

/-- The rule without conditions holds of every script. -/
lemma Script.obeys_trivial (script : Script) : script.Obeys {} := by
  induction script with
  | done => trivial
  | relate r settings branch rest ihb ihr => exact ⟨trivial, ihb, ihr⟩
  | within source body rest ihb ihr => exact ⟨trivial, ihb, ihr⟩
  | keyedBy key rest ih => exact ih
  | unkeyed rest ih => exact ih
  | observe rest ih => exact ih

/-- The scripts of all entities follow the rule. -/
def Schema.Obeys (rule : Rule) (schema : Schema) : Prop :=
  ∀ key, (schema.relations key).Obeys rule

/-- What runs of scripts keep: `Holds` of the graph, `Fits` of the sites that statements are run
at, `Resumes` of sites where one was run before, `Ready` of an edge and the settings that are still
to come for it. -/
structure Invariant (schema : Schema) (rule : Rule) where
  Holds : Graph → Prop
  Fits : Graph → Site → Prop
  Resumes : Graph → Site → Prop
  Ready : Graph → Nat → List Setting → Prop
  resumes_extends : ∀ {g g' s}, g.Extends g' → Resumes g s → Resumes g' s
  fits_of_resumes : ∀ {g s}, Holds g → Resumes g s → Fits g s
  fits_within : ∀ {g s source}, rule.within source → Fits g s →
    Fits g (s.within source) ∧ ∀ g', g.Extends g' → Fits g' s
  fits_keyedBy : ∀ {g s key}, Fits g s → Fits g (s.keyedBy (schema.entity key))
  fits_unkeyed : ∀ {g s}, Fits g s → Fits g s.unkeyed
  place : ∀ {r settings s d}, rule.relate r settings → Holds d.graph → Fits d.graph s →
    let g := (r.place schema s d).graph
    Holds g ∧ Ready g (g.size - 1) settings ∧ Resumes g (s.advance (g.size - 1))
  change : ∀ {g id setting rest}, Holds g → Ready g id (setting :: rest) → setting ≠ .nest →
    Holds (g.update id setting.change) ∧ Ready (g.update id setting.change) id rest
  nested : ∀ {g g' id rest}, Ready g id (.nest :: rest) → g.Extends g' → Holds g' →
    Ready g' id rest
  below : ∀ {g id settings e} (depth : Nat), Holds g → Ready g id settings →
    g.edge? id = some e → Fits g (.below depth e)
  markOverflowed : ∀ {g} (id : Nat), Holds g → Holds (g.markOverflowed id)

/-- The graph of a draft grows when the scripts of entities are run. -/
def Expansion.Grows (expand : Expansion) : Prop :=
  ∀ key s (d : Draft), d.graph.Extends (expand key s d).graph

section Growth

variable {schema : Schema} {expand : Expansion}

/-- A many-to-many relation makes the edge to its pivot and, behind it, the one to the entity. -/
lemma Relating.graph_place_belongsToMany (s : Site) (d : Draft) (key : EntityKey) (p : Pivot) :
    (Relating.place schema s d (.belongsToMany key p)).graph =
      let e := schema.entity key
      let target := p.tableRef s.base e.baseName
      (d.graph.push s.pending (s.bridge p target)).push (some d.graph.size)
        (p.related target d.graph.size e) := rfl

lemma Relating.place_extends (r : Relating) (schema : Schema) (s : Site) (d : Draft) :
    d.graph.Extends (r.place schema s d).graph := by
  cases r with
  | belongsToMany key pivot =>
    rw [Relating.graph_place_belongsToMany]
    exact (Graph.extends_push _ _ _).trans (Graph.extends_push _ _ _)
  | _ => exact Graph.extends_push _ _ _

@[simp] lemma Draft.graph_noteEdge (d : Draft) (id : Nat) : (d.noteEdge id).graph = d.graph := by
  unfold Draft.noteEdge
  split <;> rfl

lemma Draft.nest_extends (hexp : expand.Grows) (related : Option EntityKey) (depth id : Nat)
    (d : Draft) : d.graph.Extends (d.nest expand related depth id).graph := by
  unfold Draft.nest
  split
  · split
    · exact Graph.extends_markOverflowed _ _
    · exact hexp _ _ _
  · exact .refl _

lemma Setting.run_extends (hexp : expand.Grows) (related : Option EntityKey) (depth id : Nat)
    (d : Draft) (setting : Setting) :
    d.graph.Extends (setting.run expand related depth id d).graph := by
  cases setting with
  | nest => exact d.nest_extends hexp related depth id
  | observe => simpa [Setting.run] using Graph.Extends.refl d.graph
  | _ => exact Graph.extends_update (Setting.change_grows _) _ _

lemma settings_extends (hexp : expand.Grows) (related : Option EntityKey) (depth id : Nat)
    (settings : List Setting) (d : Draft) :
    d.graph.Extends (settings.foldl (Setting.run expand related depth id) d).graph := by
  induction settings generalizing d with
  | nil => exact .refl _
  | cons setting rest ih => exact (setting.run_extends hexp related depth id d).trans (ih _)

/-- A run extends the graph. -/
lemma Script.run_extends (hexp : expand.Grows) (script : Script) (s : Site) (d : Draft) :
    d.graph.Extends (script.run schema expand s d).graph := by
  induction script generalizing s d with
  | done => exact .refl _
  | relate r settings branch rest ihb ihr =>
    have hsettled := (r.place_extends schema s d).trans
      (settings_extends hexp r.key? s.depth ((r.place schema s d).graph.size - 1) settings _)
    refine hsettled.trans (Graph.Extends.trans ?_ (ihr _ _))
    split
    · exact ihb _ _
    · exact .refl _
  | within source body rest ihb ihr => exact (ihb _ _).trans (ihr _ _)
  | keyedBy key rest ih => exact ih _ _
  | unkeyed rest ih => exact ih _ _
  | observe rest ih => exact ih _ (d.noteSite s)

lemma Schema.expand_grows (schema : Schema) (fuel : Nat) : (schema.expand fuel).Grows := by
  induction fuel with
  | zero => exact fun _ _ _ => .refl _
  | succ fuel ih => exact fun key s d => Script.run_extends ih _ s (d.note _)

end Growth

namespace Invariant

variable {schema : Schema} {rule : Rule} (I : Invariant schema rule) {expand : Expansion}

/-- Running the scripts of entities keeps the invariant. -/
def Kept (expand : Expansion) : Prop :=
  ∀ key s (d : Draft), I.Holds d.graph → I.Fits d.graph s → I.Holds (expand key s d).graph

lemma update_observe (g : Graph) (id : Nat) :
    g.update id (Setting.change · .observe) = g := by
  have h : g.edges.modify id (fun e => e) = g.edges := by
    apply Array.ext_getElem?
    intro i
    rw [Array.getElem?_modify]
    split <;> simp
  simp only [Graph.update, Setting.change, h]

lemma setting (related : Option EntityKey) (depth : Nat) {id : Nat} {d : Draft}
    {setting : Setting} {rest : List Setting} (hexp : expand.Grows) (hkept : I.Kept expand)
    (h : I.Holds d.graph) (hready : I.Ready d.graph id (setting :: rest)) :
    let g := (setting.run expand related depth id d).graph
    I.Holds g ∧ I.Ready g id rest := by
  by_cases hnest : setting = .nest
  · subst hnest
    have hext := d.nest_extends hexp related depth id
    have hholds : I.Holds (d.nest expand related depth id).graph := by
      unfold Draft.nest
      split
      · rename_i key e he
        split
        · exact I.markOverflowed id h
        · exact hkept _ _ _ h (I.below depth h hready he)
      · exact h
    exact ⟨hholds, I.nested hready hext hholds⟩
  · have hrun : (setting.run expand related depth id d).graph =
        d.graph.update id setting.change := by
      cases setting with
      | nest => exact absurd rfl hnest
      | observe => simp [Setting.run, update_observe]
      | _ => rfl
    simp only [hrun]
    exact I.change h hready hnest

lemma settings (related : Option EntityKey) (depth : Nat) {id : Nat} {settings : List Setting}
    {d : Draft} (hexp : expand.Grows) (hkept : I.Kept expand) (h : I.Holds d.graph)
    (hready : I.Ready d.graph id settings) :
    let g := (settings.foldl (Setting.run expand related depth id) d).graph
    I.Holds g ∧ I.Ready g id [] := by
  induction settings generalizing d with
  | nil => exact ⟨h, hready⟩
  | cons setting rest ih =>
    obtain ⟨h', hready'⟩ := I.setting related depth hexp hkept h hready
    exact ih h' hready'

/-- A run keeps the invariant. -/
lemma run (hexp : expand.Grows) (hkept : I.Kept expand) {script : Script}
    (hobeys : script.Obeys rule) {s : Site} {d : Draft} (h : I.Holds d.graph)
    (hfits : I.Fits d.graph s) : I.Holds (script.run schema expand s d).graph := by
  induction script generalizing s d with
  | done => exact h
  | relate r settings branch rest ihb ihr =>
    obtain ⟨hrule, hb, hr⟩ := hobeys
    obtain ⟨hplaced, hready, hadvanced⟩ := I.place hrule h hfits
    set placed := r.place schema s d
    set id := placed.graph.size - 1
    obtain ⟨hsettled, hready'⟩ :=
      I.settings r.key? s.depth hexp hkept hplaced hready
    have hext := settings_extends hexp r.key? s.depth id settings placed
    rw [Script.run]
    set settled := settings.foldl (Setting.run expand r.key? s.depth id) placed
    -- the branch runs below the edge as its settings have left it
    cases he : settled.graph.edge? id with
    | none =>
      exact ihr hr hsettled (I.fits_of_resumes hsettled (I.resumes_extends hext hadvanced))
    | some e =>
      have hbranched := ihb hb hsettled (I.below s.depth hsettled hready' he)
      have hrest : placed.graph.Extends
          (branch.run schema expand (Site.below s.depth e) settled).graph :=
        hext.trans (branch.run_extends hexp _ _)
      exact ihr hr hbranched (I.fits_of_resumes hbranched (I.resumes_extends hrest hadvanced))
  | within source body rest ihb ihr =>
    obtain ⟨hrule, hb, hr⟩ := hobeys
    obtain ⟨hwithin, hafter⟩ := I.fits_within hrule hfits
    exact ihr hr (ihb hb h hwithin) (hafter _ (body.run_extends hexp _ d))
  | keyedBy key rest ih => exact ih hobeys h (I.fits_keyedBy hfits)
  | unkeyed rest ih => exact ih hobeys h (I.fits_unkeyed hfits)
  | observe rest ih => exact ih hobeys h hfits

lemma kept_expand (hschema : schema.Obeys rule) (fuel : Nat) : I.Kept (schema.expand fuel) := by
  induction fuel with
  | zero => exact fun _ _ _ h _ => h
  | succ fuel ih =>
    exact fun key s d h hfits => I.run (schema.expand_grows fuel) ih (hschema key) h hfits

/-- A declaration keeps the invariant. -/
theorem declare (hschema : schema.Obeys rule) {script : Script} (hobeys : script.Obeys rule)
    {e : Entity} (h : I.Holds { root := e.tableRef })
    (hfits : I.Fits { root := e.tableRef } (.ofEntity e)) :
    I.Holds (script.declare schema e).graph :=
  I.run (schema.expand_grows _) (I.kept_expand hschema _) hobeys h hfits

end Invariant

end RelationQuery
