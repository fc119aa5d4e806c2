import RelationQuery.Proofs.Relation.Growth
import RelationQuery.Proofs.Text.Undotted
import RelationQuery.Relation.Tie

/-!
Many-to-many relations from both sides. Either entity may declare the relation, and the other one
is then the related entity. The pivot is the same from both sides: its table, and the two columns
that refer to the entities, each of them where the other side expects it.
-/

namespace RelationQuery

/-! ### Conventional names -/

namespace Pivot

/-- The conventional table does not depend on the side. -/
lemma tableName_comm (a b : String) : tableName a b = tableName b a := by
  unfold tableName
  split <;> split
  · rename_i hab hba
    rw [String.le_antisymm hab hba]
  · rfl
  · rfl
  · rename_i hab hba
    rcases String.le_total a b with h | h
    · exact absurd h hab
    · exact absurd h hba

lemma keyName_inj {a b : String} : keyName a = keyName b ↔ a = b :=
  String.append_left_inj _

lemma undotted_keyName (e : Entity) : Text.Undotted (keyName e.baseName) :=
  (Text.undotted_snake e.name).append (by decide)

/-- The conventional columns of a pivot are told apart by the names of their entities. -/
lemma resolve_keyName_ne {a b : Entity} (h : a.baseName ≠ b.baseName) (asName : String) :
    Column.resolve (keyName a.baseName) asName ≠ Column.resolve (keyName b.baseName) asName := by
  rw [Column.resolve_of_undotted (undotted_keyName a),
    Column.resolve_of_undotted (undotted_keyName b)]
  intro hsame
  exact h (keyName_inj.mp (Column.mk.inj hsame).2)

/-- The same settings from the other side. Each side selects the columns that it likes. -/
structure Mirrors (p q : Pivot) : Prop where
  table : q.table = p.table
  asName : q.asName = p.asName
  selfKey : q.selfKey = p.otherKey
  otherKey : q.otherKey = p.selfKey

lemma Mirrors.tableRef {p q : Pivot} (h : p.Mirrors q) (a b : String) :
    q.tableRef b a = p.tableRef a b := by
  unfold Pivot.tableRef
  rw [h.table, h.asName, tableName_comm b a]

end Pivot

/-! ### Edges by way of a pivot -/

/-- The only comparison of an edge, as a join or as a correlation. -/
structure Edge.Compares (e : Edge) (c : Correlation) : Prop where
  correlation : e.correlation = .ok c
  join : e.join = .ok ⟨e.kind, .table e.target, .conditions [c.term]⟩

lemma Edge.compares_of_predicate {e : Edge} {left right : String} {op : Comparison}
    (h : e.predicate = .conditions [⟨left, op, right⟩]) (hkind : e.kind ≠ .cross) :
    e.Compares ⟨Column.resolve left e.source.asName, op, Column.resolve right e.target.asName⟩ where
  correlation := by
    unfold Edge.correlation
    rw [h]
    rfl
  join := by
    unfold Edge.join
    rw [if_neg hkind, h]
    rfl

/-- Where rows of an entity meet rows of a pivot: a column of the entity's table, and the column
of the pivot that refers to it. -/
structure Joint where
  id : Column
  key : Column
  deriving DecidableEq

def Joint.between (table : Table) (id : String) (pivot : Table) (key : String) : Joint :=
  ⟨Column.resolve id table.asName, Column.resolve key pivot.asName⟩

/-- Two edges in a row lead from `source` to a pivot and from there to `target`. -/
structure Graph.Crosses (g : Graph) (i : Nat) (source pivot target : Table) (near far : Joint) :
    Prop where
  enter : ∃ e, g.edge? i = some e ∧ e.bridge = true ∧ e.source = source ∧ e.target = pivot ∧
    e.Compares ⟨near.id, .eq, near.key⟩
  leave : ∃ e, g.edge? (i + 1) = some e ∧ e.bridge = false ∧ e.source = pivot ∧
    e.target = target ∧ e.Compares ⟨far.key, .eq, far.id⟩

/-- An edge has one comparison, so the columns are determined. -/
lemma Graph.Crosses.near_unique {g : Graph} {i : Nat}
    {source pivot target source' pivot' target' : Table} {near far near' far' : Joint}
    (h : g.Crosses i source pivot target near far)
    (h' : g.Crosses i source' pivot' target' near' far') : near = near' := by
  obtain ⟨e, he, -, -, -, hc⟩ := h.enter
  obtain ⟨f, hf, -, -, -, hc'⟩ := h'.enter
  obtain rfl : e = f := Option.some.inj (he.symm.trans hf)
  have hsame := hc.correlation.symm.trans hc'.correlation
  cases near
  cases near'
  simpa using hsame

/-- Two edges pushed one after the other stand one after the other. -/
lemma Graph.edges_of_push_push (g : Graph) (follows follows' : Option Nat) (e f : Edge) :
    let grown := (g.push follows e).push follows' f
    (∃ prev next, grown.edge? g.size = some { e with id := g.size, prev, next }) ∧
      ∃ prev, grown.edge? (g.size + 1) = some { f with id := g.size + 1, prev, next := none } := by
  intro grown
  have hsize : (g.push follows e).size = g.size + 1 := g.size_push follows e
  constructor
  · have hne : g.size ≠ (g.push follows e).size := by omega
    have hold : grown.edge? g.size = _ := (g.push follows e).edge?_push follows' f g.size
    rw [if_neg hne, edge?_push_self, Option.map_some] at hold
    split at hold
    · exact ⟨_, _, hold⟩
    · exact ⟨_, _, hold⟩
  · have hnew : grown.edge? (g.push follows e).size = _ :=
      (g.push follows e).edge?_push_self follows' f
    rw [hsize] at hnew
    exact ⟨_, hnew⟩

/-- A many-to-many relation crosses its pivot, wherever it is declared. -/
lemma Relating.place_crosses (schema : Schema) (s : Site) (d : Draft) (key : EntityKey)
    (p : Pivot) {e : Entity} (he : schema.entity key = e) {pivot : Table}
    (hpivot : p.tableRef s.base e.baseName = pivot) :
    (Relating.place schema s d (.belongsToMany key p)).graph.Crosses d.graph.size s.source pivot
      e.tableRef
      (.between s.source s.sourceId pivot (p.selfKey.getD (Pivot.keyName s.base)))
      (.between e.tableRef e.idColumn pivot (p.otherKey.getD (Pivot.keyName e.baseName))) := by
  rw [Relating.graph_place_belongsToMany]
  simp only [he, hpivot]
  obtain ⟨⟨prev, next, hbridge⟩, ⟨prev', hrelated⟩⟩ := d.graph.edges_of_push_push s.pending
    (some d.graph.size) (s.bridge p pivot) (p.related pivot d.graph.size e)
  constructor
  · refine ⟨_, hbridge, rfl, rfl, rfl, ?_⟩
    rw [Joint.between]
    exact Edge.compares_of_predicate rfl (by simp [Site.bridge])
  · refine ⟨_, hrelated, rfl, rfl, rfl, ?_⟩
    rw [Joint.between]
    exact Edge.compares_of_predicate rfl (by simp [Pivot.related])

/-! ### Both sides -/

/-- A site that declares relations of `e`: it leads from the entity's table, and names are
inferred from the entity. -/
structure Site.Declares (s : Site) (e : Entity) : Prop where
  source : s.source = e.tableRef
  context : s.context = some e

namespace Site

lemma declares_ofEntity (e : Entity) : (ofEntity e).Declares e := ⟨rfl, rfl⟩

lemma declares_below (depth : Nat) {edge : Edge} {e : Entity} (htarget : edge.target = e.tableRef)
    (hentity : edge.entity = some e) : (below depth edge).Declares e := ⟨htarget, hentity⟩

lemma Declares.base {s : Site} {e : Entity} (h : s.Declares e) : s.base = e.baseName := by
  simp [Site.base, h.context]

/-- A site that a script reaches without `keyedBy`, so that its context comes with its source. -/
inductive Native : Site → Prop
  | ofEntity (e : Entity) : Native (ofEntity e)
  | behind (depth : Nat) (edge : Edge) : Native (below depth edge)
  | within {s : Site} (source : Table) (h : Native s) : Native (s.within source)
  | unkeyed {s : Site} (h : Native s) : Native s.unkeyed
  | advance {s : Site} (id : Nat) (h : Native s) : Native (s.advance id)

lemma Native.sourceId {s : Site} (h : s.Native) :
    s.sourceId = (s.context.map Entity.idColumn).getD "id" := by
  induction h with
  | ofEntity e => rfl
  | behind depth edge => rfl
  | within source h ih => rfl
  | unkeyed h ih => exact ih
  | advance id h ih => exact ih

/-- Rows of the source are identified by the entity's id column. -/
lemma Declares.sourceId {s : Site} {e : Entity} (h : s.Declares e) (hnative : s.Native) :
    s.sourceId = e.idColumn := by
  rw [hnative.sourceId, h.context]
  rfl

end Site

namespace Pivot

/-- **The pivot is the same from both sides**: its table, and the two columns that refer to the
entities. In front of it stands the id column that the site has for its source, which is the
entity's unless a script has set the context by hand. -/
theorem crossed_both_ways {schema : Schema} {a b : EntityKey} {s s' : Site} {p q : Pivot}
    (hs : s.Declares (schema.entity a)) (hs' : s'.Declares (schema.entity b)) (hpq : p.Mirrors q)
    (d d' : Draft) :
    let self := schema.entity a
    let other := schema.entity b
    let pivot := p.tableRef self.baseName other.baseName
    let selfKey := p.selfKey.getD (keyName self.baseName)
    let otherKey := p.otherKey.getD (keyName other.baseName)
    (Relating.place schema s d (.belongsToMany b p)).graph.Crosses d.graph.size
        self.tableRef pivot other.tableRef
        (.between self.tableRef s.sourceId pivot selfKey)
        (.between other.tableRef other.idColumn pivot otherKey) ∧
      (Relating.place schema s' d' (.belongsToMany a q)).graph.Crosses d'.graph.size
        other.tableRef pivot self.tableRef
        (.between other.tableRef s'.sourceId pivot otherKey)
        (.between self.tableRef self.idColumn pivot selfKey) ∧
      (s.Native → s.sourceId = self.idColumn) ∧ (s'.Native → s'.sourceId = other.idColumn) ∧
      tableName self.baseName other.baseName = tableName other.baseName self.baseName ∧
      (self.baseName ≠ other.baseName → p.selfKey = none → p.otherKey = none →
        Column.resolve selfKey pivot.asName ≠ Column.resolve otherKey pivot.asName) := by
  intro self other pivot selfKey otherKey
  refine ⟨?_, ?_, hs.sourceId, hs'.sourceId, tableName_comm _ _, ?_⟩
  · have hpivot : p.tableRef s.base other.baseName = pivot := by rw [hs.base]
    have h := Relating.place_crosses schema s d b p rfl hpivot
    rwa [hs.base, hs.source] at h
  · have hpivot : q.tableRef s'.base self.baseName = pivot := by rw [hs'.base, hpq.tableRef]
    have h := Relating.place_crosses schema s' d' a q rfl hpivot
    rwa [hs'.base, hs'.source, hpq.selfKey, hpq.otherKey] at h
  · intro hne hself hother
    simp only [selfKey, otherKey, hself, hother, Option.getD_none]
    exact resolve_keyName_ne hne _

def employee : Entity where
  name := "Employee"
  table := "employees"
  asName := "e"
  idColumn := "employee_no"
  fields := ["employee_no", "full_name"]

def role : Entity where
  name := "Role"
  table := "roles"
  asName := "r"
  fields := ["id", "name"]

def staff : Schema where
  entity key := if key = "Role" then role else employee
  relations _ := .done

/-- The roles of an employee, and the employees of each of them below. -/
theorem crossed_both_ways_employee :
    let here := Site.ofEntity employee
    let d : Draft := { graph := { root := employee.tableRef } }
    let d' := Relating.place staff here d (.many "Role")
    let there := Site.below 0 { here.edge .left role.tableRef role with many := true }
    let p : Pivot := { asName := some "m", selfKey := some "worker", columns := ["name"] }
    let q : Pivot := { asName := some "m", otherKey := some "worker", pivotColumns := ["since"] }
    let worker : Joint := ⟨.qualified "e" "employee_no", .qualified "m" "worker"⟩
    let post : Joint := ⟨.qualified "r" "id", .qualified "m" "role_id"⟩
    here.Declares employee ∧ there.Declares role ∧ p.Mirrors q ∧
      (Relating.place staff here d (.belongsToMany "Role" p)).graph.Crosses 0
        employee.tableRef ⟨"employee_roles", "m"⟩ role.tableRef worker post ∧
      (Relating.place staff there d' (.belongsToMany "Employee" q)).graph.Crosses 1
        role.tableRef ⟨"employee_roles", "m"⟩ employee.tableRef post worker := by
  intro here d d' there p q worker post
  have hhere : here.Declares (staff.entity "Employee") := Site.declares_ofEntity employee
  have hthere : there.Declares (staff.entity "Role") := Site.declares_below 0 rfl rfl
  have hpq : p.Mirrors q := ⟨rfl, rfl, rfl, rfl⟩
  obtain ⟨hout, hback, -⟩ := crossed_both_ways hhere hthere hpq d d'
  have hpivot : p.tableRef (staff.entity "Employee").baseName (staff.entity "Role").baseName =
      ⟨"employee_roles", "m"⟩ := by decide +kernel
  have hworker : Joint.between employee.tableRef employee.idColumn ⟨"employee_roles", "m"⟩
      (p.selfKey.getD (keyName employee.baseName)) = worker := by decide +kernel
  have hpost : Joint.between role.tableRef role.idColumn ⟨"employee_roles", "m"⟩
      (p.otherKey.getD (keyName role.baseName)) = post := by decide +kernel
  rw [hpivot] at hout hback
  rw [← hworker, ← hpost]
  exact ⟨hhere, hthere, hpq, hout, hback⟩

/-- A table that is linked by its name has the id column `id`, whatever entity its relations are
declared for. -/
theorem linked_table_joins_on_id :
    let s := ((Site.ofEntity role).within employee.tableRef).keyedBy employee
    let d : Draft := { graph := { root := role.tableRef } }
    s.Declares employee ∧ employee.idColumn = "employee_no" ∧
      (Relating.place staff s d (.belongsToMany "Role" {})).graph.Crosses 0
        employee.tableRef ⟨"employee_roles", "employee_roles"⟩ role.tableRef
        ⟨.qualified "e" "id", .qualified "employee_roles" "employee_id"⟩
        ⟨.qualified "r" "id", .qualified "employee_roles" "role_id"⟩ ∧
      ¬ ∃ pivot key far, (Relating.place staff s d (.belongsToMany "Role" {})).graph.Crosses 0
        employee.tableRef pivot role.tableRef
        ⟨Column.resolve employee.idColumn employee.asName, key⟩ far := by
  intro s d
  have hpivot : ({} : Pivot).tableRef s.base role.baseName =
      ⟨"employee_roles", "employee_roles"⟩ := by decide +kernel
  have hrole : staff.entity "Role" = role := rfl
  have hcrosses := Relating.place_crosses staff s d "Role" {} hrole hpivot
  have hnear : Joint.between s.source s.sourceId ⟨"employee_roles", "employee_roles"⟩
      (keyName s.base) =
        ⟨.qualified "e" "id", .qualified "employee_roles" "employee_id"⟩ := by decide +kernel
  have hfar : Joint.between role.tableRef role.idColumn ⟨"employee_roles", "employee_roles"⟩
      (keyName role.baseName) =
        ⟨.qualified "r" "id", .qualified "employee_roles" "role_id"⟩ := by decide +kernel
  rw [Option.getD_none, Option.getD_none, hnear, hfar] at hcrosses
  refine ⟨⟨rfl, rfl⟩, rfl, hcrosses, ?_⟩
  rintro ⟨pivot, key, far, h⟩
  have hid : Column.qualified "e" "id" = Column.resolve employee.idColumn employee.asName :=
    congrArg Joint.id (hcrosses.near_unique h)
  exact absurd hid (by decide +kernel)

end Pivot

end RelationQuery
