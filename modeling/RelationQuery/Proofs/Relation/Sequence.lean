import Mathlib.Data.String.Basic
import RelationQuery.Proofs.Relation.Chain

/-!
Scripts one after the other. What the second script declares does not depend on what the first one
has: the graph has the edges of the first script and, behind them, those that the second one makes
alone, moved up by as many places. This takes two runs of one script, next to each other, and
follows every number that an edge or a site holds.
-/

namespace RelationQuery

/-! ### Edges moved up -/

/-- The edge in a graph where it stands `k` places further up. -/
def Edge.shift (k : Nat) (e : Edge) : Edge :=
  { e with
    id := k + e.id
    anchor := e.anchor.map (k + ·)
    prev := e.prev.map (k + ·)
    next := e.next.map (k + ·) }

@[simp] lemma Edge.shift_zero (e : Edge) : e.shift 0 = e := by
  simp [shift]

@[simp] lemma Edge.inChain_shift (k : Nat) (e : Edge) : (e.shift k).inChain = e.inChain := by
  simp [shift, inChain]

/-- Settings change nothing that depends on the place. -/
lemma Setting.change_shift (k : Nat) (setting : Setting) (e : Edge) :
    setting.change (e.shift k) = (setting.change e).shift k := by
  cases setting with
  | kind kind =>
    simp only [Setting.change, Edge.withKind]
    split <;> rfl
  | _ => rfl

/-- `s'` is the site `s` in a graph where all edges stand `k` places further up. -/
structure Site.Beside (k : Nat) (s s' : Site) : Prop where
  source : s'.source = s.source
  sourceId : s'.sourceId = s.sourceId
  foreignKey : s'.foreignKey? = s.foreignKey?
  base : s'.base = s.base
  pending : s'.pending = s.pending.map (k + ·)
  anchor : s'.anchor = s.anchor.map (k + ·)
  depth : s'.depth = s.depth

namespace Site.Beside

variable {k : Nat} {s s' : Site} (h : s.Beside k s')
include h

lemma predicate : s'.predicate = s.predicate := by
  rw [Site.predicate, Site.predicate, h.foreignKey, h.sourceId]

lemma edge (kind : JoinKind) (target : Table) (entity : Option Entity) :
    s'.edge kind target entity =
      { s.edge kind target entity with anchor := s.anchor.map (k + ·) } := by
  simp only [Site.edge, h.predicate, h.source, h.anchor]

lemma bridge (p : Pivot) (target : Table) :
    s'.bridge p target = { s.bridge p target with anchor := s.anchor.map (k + ·) } := by
  simp only [Site.bridge, h.base, h.sourceId, h.source, h.anchor]

lemma within (source : Table) : (s.within source).Beside k (s'.within source) where
  source := rfl
  sourceId := rfl
  foreignKey := by
    unfold Site.foreignKey?
    split <;> split <;> rfl
  base := rfl
  pending := h.pending
  anchor := h.anchor
  depth := h.depth

lemma keyedBy (e : Entity) : (s.keyedBy e).Beside k (s'.keyedBy e) where
  source := h.source
  sourceId := h.sourceId
  foreignKey := rfl
  base := rfl
  pending := h.pending
  anchor := h.anchor
  depth := h.depth

lemma unkeyed : s.unkeyed.Beside k s'.unkeyed where
  source := h.source
  sourceId := h.sourceId
  foreignKey := rfl
  base := h.base
  pending := h.pending
  anchor := h.anchor
  depth := h.depth

lemma advance (id : Nat) : (s.advance id).Beside k (s'.advance (k + id)) where
  source := h.source
  sourceId := h.sourceId
  foreignKey := h.foreignKey
  base := h.base
  pending := by simp [Site.advance, h.pending, Function.comp_def]
  anchor := h.anchor
  depth := h.depth

end Site.Beside

lemma Site.below_beside (k depth : Nat) (e : Edge) :
    (Site.below depth e).Beside k (.below depth (e.shift k)) where
  source := rfl
  sourceId := rfl
  foreignKey := rfl
  base := rfl
  pending := by
    simp only [Site.below, Edge.inChain_shift]
    split <;> rfl
  anchor := rfl
  depth := rfl

/-! ### Graphs side by side -/

namespace Graph

/-- Links lead further up in the graph. -/
def Ascending (g : Graph) : Prop := ∀ i j, g.next? i = some j → i < j ∧ j < g.size

/-- `g'` has the edges of `base` and, behind them, those of `g`. -/
structure Beside (base g g' : Graph) : Prop where
  size : g'.size = base.size + g.size
  first : ∀ i < base.size, g'.edge? i = base.edge? i
  second : ∀ i, g'.edge? (base.size + i) = (g.edge? i).map (Edge.shift base.size)
  ascending : g.Ascending

variable {base g g' : Graph}

lemma tailFrom_of_end {i : Nat} (h : g.next? i = none) (fuel : Nat) : g.tailFrom fuel i = i := by
  cases fuel with
  | zero => rfl
  | succ fuel => rw [tailFrom, h]

lemma beside_empty (base : Graph) (root : Table) : base.Beside { root } base where
  size := rfl
  first _ _ := rfl
  second i := by simp [edge?, size]
  ascending i j h := by simp [next?, edge?] at h

namespace Ascending

lemma update (h : g.Ascending) {f : Edge → Edge} (hf : ∀ e, (f e).next = e.next) (id : Nat) :
    (g.update id f).Ascending := by
  intro i j hnext
  rw [next?, edge?_update] at hnext
  rw [size_update]
  refine h i j ?_
  split at hnext
  · rw [next?]
    cases he : g.edge? i with
    | none => simp [he] at hnext
    | some e => simpa [he, hf] using hnext
  · exact hnext

lemma push (h : g.Ascending) (follows : Option Nat) (e : Edge) : (g.push follows e).Ascending := by
  intro i j hnext
  obtain ⟨k, hk, hlink⟩ := Option.bind_eq_some_iff.mp hnext
  rw [size_push]
  obtain ⟨-, rfl⟩ | ⟨f, hf, -, hown⟩ := edge?_push_cases hk
  · cases hlink
  · rw [hlink] at hown
    split at hown
    · cases hown
      have := lt_size_of_edge? hf
      omega
    · have := h i j (by rw [next?, hf, Option.bind_some, hown])
      omega

end Ascending

namespace Beside

variable (h : base.Beside g g')
include h

lemma next? (i : Nat) : g'.next? (base.size + i) = (g.next? i).map (base.size + ·) := by
  rw [Graph.next?, Graph.next?, h.second]
  cases g.edge? i <;> rfl

/-- Tails are found in the second part, with whatever fuel is enough. -/
lemma tailFrom {fuel fuel' i : Nat} (hfuel : g.size ≤ fuel + i) (hfuel' : g.size ≤ fuel' + i) :
    g'.tailFrom fuel' (base.size + i) = base.size + g.tailFrom fuel i := by
  have hend : ∀ {i}, g.next? i = none → ∀ fuel fuel', g'.tailFrom fuel' (base.size + i) =
      base.size + g.tailFrom fuel i := by
    intro i hnone fuel fuel'
    rw [tailFrom_of_end hnone, tailFrom_of_end (by rw [h.next?, hnone, Option.map_none])]
  induction fuel generalizing fuel' i with
  | zero =>
    refine hend (Option.eq_none_iff_forall_ne_some.mpr fun j hj => ?_) _ _
    have := h.ascending i j hj
    omega
  | succ fuel ih =>
    cases hnext : g.next? i with
    | none => exact hend hnext _ _
    | some j =>
      have hlt := h.ascending i j hnext
      cases fuel' with
      | zero => omega
      | succ fuel' =>
        rw [Graph.tailFrom, Graph.tailFrom, h.next?, hnext]
        exact ih (by omega) (by omega)

lemma tail (i : Nat) : g'.tail (base.size + i) = base.size + g.tail i := by
  refine h.tailFrom (Nat.le_add_right _ _) ?_
  rw [h.size]
  omega

lemma markOverflowed (id id' : Nat) :
    base.Beside (g.markOverflowed id) (g'.markOverflowed id') where
  size := by simpa [Graph.size] using h.size
  first i hi := by simpa using h.first i hi
  second i := by simpa using h.second i
  ascending i j hnext := by
    simpa [Graph.next?, Graph.size] using h.ascending i j (by simpa [Graph.next?] using hnext)

lemma update {f : Edge → Edge}
    (hshift : ∀ e : Edge, f (e.shift base.size) = (f e).shift base.size)
    (hnext : ∀ e, (f e).next = e.next) (id : Nat) :
    base.Beside (g.update id f) (g'.update (base.size + id) f) where
  size := by simpa using h.size
  first i hi := by
    rw [edge?_update, if_neg (by omega), h.first i hi]
  second i := by
    rw [edge?_update, edge?_update, h.second]
    by_cases hi : id = i
    · rw [if_pos (by omega), if_pos hi]
      cases g.edge? i <;> simp [hshift]
    · rw [if_neg (by omega), if_neg hi]
  ascending := h.ascending.update hnext id

lemma push (follows : Option Nat) (e : Edge) : base.Beside (g.push follows e)
    (g'.push (follows.map (base.size + ·)) { e with anchor := e.anchor.map (base.size + ·) }) where
  size := by
    rw [size_push, size_push, h.size]
    rfl
  first i hi := by
    -- the edge that is linked to the new one stands in the second part
    have htail : (follows.map (base.size + ·)).map g'.tail ≠ some i := by
      cases follows with
      | none => simp
      | some before =>
        simp only [Option.map_some, h.tail, ne_eq, Option.some.injEq]
        omega
    have hsize := h.size
    rw [edge?_push, if_neg (by omega), h.first i hi]
    simp only [if_neg htail, Option.map_id_fun', id]
  second i := by
    have htail : (follows.map (base.size + ·)).map g'.tail =
        (follows.map g.tail).map (base.size + ·) := by
      cases follows <;> simp [h.tail]
    have hsize := h.size
    rw [edge?_push, edge?_push, htail, h.second]
    by_cases hi : i = g.size
    · rw [if_pos (by omega), if_pos hi, hsize]
      rfl
    · rw [if_neg (by omega), if_neg hi]
      cases g.edge? i with
      | none => rfl
      | some f =>
        have hlast : (follows.map g.tail).map (base.size + ·) = some (base.size + i) ↔
            follows.map g.tail = some i := by
          cases follows.map g.tail <;> simp
        simp only [Option.map_some, hlast, hsize]
        split <;> rfl
  ascending := h.ascending.push follows e

end Beside

end Graph

/-! ### Two runs of one script -/

/-- The scripts of entities make the same edges in both drafts. -/
def Expansion.KeepsBeside (base : Graph) (expand : Expansion) : Prop :=
  ∀ key {s s' : Site} {d d' : Draft}, s.Beside base.size s' → base.Beside d.graph d'.graph →
    base.Beside (expand key s d).graph (expand key s' d').graph

section Runs

variable {base : Graph} {schema : Schema} {expand : Expansion} {s s' : Site} {d d' : Draft}

/-- A statement makes the same edges in both. -/
lemma Relating.place_beside (r : Relating) (schema : Schema) (hs : s.Beside base.size s')
    (h : base.Beside d.graph d'.graph) :
    base.Beside (r.place schema s d).graph (r.place schema s' d').graph := by
  have hone : ∀ e e' : Edge, e' = { e with anchor := e.anchor.map (base.size + ·) } →
      base.Beside (d.graph.push s.pending e) (d'.graph.push s'.pending e') := by
    rintro e _ rfl
    rw [hs.pending]
    exact h.push s.pending e
  cases r with
  | join kind target =>
    refine hone _ _ ?_
    rw [hs.edge, Edge.withKind, Edge.withKind]
    split <;> rfl
  | one key => exact hone _ _ (hs.edge ..)
  | many key => exact hone _ _ (by rw [hs.edge]; rfl)
  | belongsToMany key pivot =>
    rw [graph_place_belongsToMany, graph_place_belongsToMany]
    have hbridged := hone _ _ (hs.bridge pivot (pivot.tableRef s.base (schema.entity key).baseName))
    have hbehind := hbridged.push (some d.graph.size) (pivot.related
      (pivot.tableRef s.base (schema.entity key).baseName) d.graph.size (schema.entity key))
    simp only [hs.base, h.size]
    exact hbehind

lemma Relating.size_place_pos (r : Relating) (schema : Schema) (s : Site) (d : Draft) :
    0 < (r.place schema s d).graph.size := by
  cases r with
  | belongsToMany key pivot => simp [graph_place_belongsToMany]
  | _ => simp [place, Draft.push]

lemma Setting.run_beside (hexp : expand.KeepsBeside base) (related : Option EntityKey)
    (depth id : Nat) (setting : Setting) (h : base.Beside d.graph d'.graph) :
    base.Beside (setting.run expand related depth id d).graph
      (setting.run expand related depth (base.size + id) d').graph := by
  cases setting with
  | nest =>
    simp only [Setting.run, Draft.nest]
    rw [h.second]
    cases related with
    | none => exact h
    | some key =>
      cases he : d.graph.edge? id with
      | none => exact h
      | some e =>
        simp only [Option.map_some]
        split
        · exact h.markOverflowed _ _
        · exact hexp key (Site.below_beside base.size depth e) h
  | observe => simpa [Setting.run] using h
  | _ => exact h.update (Setting.change_shift _ _) (Setting.next_change _) id

lemma settings_beside (hexp : expand.KeepsBeside base) (related : Option EntityKey)
    (depth id : Nat) (settings : List Setting) (h : base.Beside d.graph d'.graph) :
    base.Beside (settings.foldl (Setting.run expand related depth id) d).graph
      (settings.foldl (Setting.run expand related depth (base.size + id)) d').graph := by
  induction settings generalizing d d' with
  | nil => exact h
  | cons setting rest ih => exact ih (setting.run_beside hexp related depth id h)

/-- A script makes the same edges in both. -/
lemma Script.run_beside (hexp : expand.KeepsBeside base) (script : Script)
    (hs : s.Beside base.size s') (h : base.Beside d.graph d'.graph) :
    base.Beside (script.run schema expand s d).graph (script.run schema expand s' d').graph := by
  induction script generalizing s s' d d' with
  | done => exact h
  | relate r settings branch rest ihb ihr =>
    have hplaced := r.place_beside schema hs h
    set placed := r.place schema s d with hplace
    set placed' := r.place schema s' d' with hplace'
    have hid : placed'.graph.size - 1 = base.size + (placed.graph.size - 1) := by
      have hsize := hplaced.size
      have hpos : 0 < placed.graph.size := r.size_place_pos schema s d
      omega
    have hsettled := settings_beside hexp r.key? s.depth (placed.graph.size - 1) settings hplaced
    rw [Script.run, Script.run]
    simp only [← hplace, ← hplace', hid, hs.depth]
    refine ihr (hs.advance _) ?_
    rw [hsettled.second]
    split
    · rename_i e he
      rw [he]
      exact ihb (Site.below_beside base.size s.depth e) hsettled
    · rename_i he
      rw [he]
      exact hsettled
  | within source body rest ihb ihr => exact ihr hs (ihb (hs.within source) h)
  | keyedBy key rest ih => exact ih (hs.keyedBy _) h
  | unkeyed rest ih => exact ih hs.unkeyed h
  | observe rest ih => exact ih hs h

lemma Schema.expand_beside (base : Graph) (schema : Schema) (fuel : Nat) :
    (schema.expand fuel).KeepsBeside base := by
  induction fuel with
  | zero => exact fun _ _ _ _ _ _ h => h
  | succ fuel ih => exact fun key _ _ _ _ hs h => Script.run_beside ih _ hs h

end Runs

/-! ### One script behind another -/

namespace Script

/-- The statements of the first script, then those of the second. -/
def followedBy : Script → Script → Script
  | .done, second => second
  | .relate r settings branch rest, second => .relate r settings branch (rest.followedBy second)
  | .within source body rest, second => .within source body (rest.followedBy second)
  | .keyedBy key rest, second => .keyedBy key (rest.followedBy second)
  | .unkeyed rest, second => .unkeyed (rest.followedBy second)
  | .observe rest, second => .observe (rest.followedBy second)

/-- The site with the foreign keys that a script leaves there. -/
def rekey (schema : Schema) : Script → Site → Site
  | .done, s => s
  | .relate _ _ _ rest, s | .within _ _ rest, s | .observe rest, s => rest.rekey schema s
  | .keyedBy key rest, s => rest.rekey schema (s.keyedBy (schema.entity key))
  | .unkeyed rest, s => rest.rekey schema s.unkeyed

variable {schema : Schema} {expand : Expansion}

/-- Where no chain is pending, the second script starts where the first one did, apart from the
foreign keys. -/
lemma run_followedBy (first second : Script) {s : Site} (hfree : s.pending = none) (d : Draft) :
    (first.followedBy second).run schema expand s d =
      second.run schema expand (first.rekey schema s) (first.run schema expand s d) := by
  induction first generalizing s d with
  | done => rfl
  | relate r settings branch rest _ ih =>
    have hadvance : ∀ id, s.advance id = s := by
      intro id
      rw [Site.advance, hfree, Option.map_none, ← hfree]
    rw [followedBy, run, run, rekey]
    simp only [hadvance]
    exact ih hfree _
  | within source body rest _ ih => exact ih hfree _
  | keyedBy key rest ih => exact ih (s := s.keyedBy (schema.entity key)) hfree _
  | unkeyed rest ih => exact ih (s := s.unkeyed) hfree _
  | observe rest ih => exact ih hfree _

lemma rekey_eq (schema : Schema) (script : Script) (s : Site) :
    ∃ context keyed, script.rekey schema s = { s with context, keyed } := by
  induction script generalizing s with
  | done => exact ⟨_, _, rfl⟩
  | relate r settings branch rest _ ih => exact ih s
  | within source body rest _ ih => exact ih s
  | keyedBy key rest ih => exact ih (s.keyedBy (schema.entity key))
  | unkeyed rest ih => exact ih s.unkeyed
  | observe rest ih => exact ih s

/-- Sites with the foreign key of the root name pivots after the same base. -/
lemma rekey_beside (script : Script) {e : Entity}
    (hkey : (script.rekey schema (.ofEntity e)).foreignKey? = some e.foreignKey) (k : Nat) :
    (Site.ofEntity e).Beside k (script.rekey schema (.ofEntity e)) := by
  obtain ⟨context, keyed, hsite⟩ := rekey_eq schema script (.ofEntity e)
  rw [hsite] at hkey ⊢
  have hbase : context.map Entity.baseName = some e.baseName := by
    simp only [Site.foreignKey?] at hkey
    split at hkey
    · obtain ⟨other, hother, hname⟩ := Option.map_eq_some_iff.mp hkey
      have hname' : other.baseName ++ "_id" = e.baseName ++ "_id" := hname
      rw [hother, Option.map_some, (String.append_left_inj "_id").mp hname']
    · cases hkey
  have hnamed : ({ Site.ofEntity e with context, keyed } : Site).base = (Site.ofEntity e).base := by
    rw [Site.base, hbase]
    rfl
  exact ⟨rfl, rfl, hkey, hnamed, rfl, rfl, rfl⟩

/-- **Scripts one after the other**: where the first script leaves the foreign key of the root as
it was, the second one makes the edges that it makes alone, behind those of the first. -/
theorem beside_followedBy (first second : Script) (schema : Schema) (e : Entity)
    (hkey : (first.rekey schema (.ofEntity e)).foreignKey? = some e.foreignKey) :
    (first.declare schema e).graph.Beside (second.declare schema e).graph
      ((first.followedBy second).declare schema e).graph := by
  set base := (first.declare schema e).graph with hbase
  rw [declare, declare, run_followedBy first second rfl]
  exact second.run_beside (schema.expand_beside base maxDepth) (first.rekey_beside hkey _)
    (base.beside_empty e.tableRef)

end Script

end RelationQuery
