import RelationQuery.Relation.Pivot
import RelationQuery.Relation.Edge

/-!
Declarations as scripts. A statement brings in one target, changes how it is tied, selected and
named, and may go on declaring from there. Entities have scripts of their own, which `nest` runs
below an edge; a schema gives them by key, so that scripts may call each other in a circle.
-/

namespace RelationQuery

/-- The name that scripts use for an entity of the schema. -/
abbrev EntityKey := String

/-- The target that a statement brings in. -/
inductive Relating where
  | join (kind : JoinKind) (target : Table)
  /-- at most one row of the entity -/
  | one (entity : EntityKey)
  /-- any number of rows, gathered into an array -/
  | many (entity : EntityKey)
  /-- any number of rows, found by way of a pivot table -/
  | belongsToMany (entity : EntityKey) (pivot : Pivot)
  deriving DecidableEq, Repr

/-- A change to the edge just made. -/
inductive Setting where
  /-- ties the rows by this condition alone -/
  | condition (c : Condition)
  /-- ties the rows by one more condition -/
  | andCondition (c : Condition)
  | shared (column : String)
  | noPredicate
  | columns (selections : List Selection)
  | allFields
  | named (label : String)
  | kind (kind : JoinKind)
  | many
  /-- runs the script of the target's own entity below the edge -/
  | nest
  /-- writes the edge to the journal -/
  | observe
  deriving DecidableEq, Repr

inductive Script where
  | done
  /-- brings in a target, changes its edge, and runs `branch` from there -/
  | relate (r : Relating) (settings : List Setting) (branch rest : Script)
  /-- runs `body` with another table as source -/
  | within (source : Table) (body rest : Script)
  /-- ties the following targets by the foreign key of an entity -/
  | keyedBy (entity : EntityKey) (rest : Script)
  /-- ties the following targets by nothing -/
  | unkeyed (rest : Script)
  /-- writes the site to the journal -/
  | observe (rest : Script)
  deriving DecidableEq, Repr, Inhabited

/-- The entities that scripts may name, each with its own script. -/
structure Schema where
  entity : EntityKey → Entity
  relations : EntityKey → Script

end RelationQuery
