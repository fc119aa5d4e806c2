import RelationQuery.Entity

/-!
Pivot tables of many-to-many relations and the names they have by convention.
-/

namespace RelationQuery

/-- Settings that take the place of the conventional names. -/
structure Pivot where
  table : Option String := none
  asName : Option String := none
  /-- the pivot column that refers to the declaring entity -/
  selfKey : Option String := none
  /-- the pivot column that refers to the related entity -/
  otherKey : Option String := none
  /-- the columns of the related entity to select; none means all of its fields -/
  columns : List String := []
  /-- the columns of the pivot to select besides -/
  pivotColumns : List String := []
  deriving DecidableEq, Repr

namespace Pivot

/-- The two base names in ascending order, the second as a plural: `role_users`. -/
def tableName (self other : String) : String :=
  if self ≤ other then self ++ "_" ++ other ++ "s" else other ++ "_" ++ self ++ "s"

/-- The column that refers to the entity of a base name. -/
def keyName (base : String) : String := base ++ "_id"

/-- The pivot table between two base names. -/
def tableRef (p : Pivot) (self other : String) : Table :=
  let table := p.table.getD (tableName self other)
  ⟨table, p.asName.getD table⟩

end Pivot

end RelationQuery
