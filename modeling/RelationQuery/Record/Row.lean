import RelationQuery.Sql.Value

/-!
The rows that a database answers with: names of columns, and values by position.
-/

namespace RelationQuery

structure Row where
  columns : List String
  values : List Value
  deriving DecidableEq

namespace Row

/-- The value in the first column of a name. -/
def get? (r : Row) (column : String) : Option Value :=
  (r.columns.idxOf? column).bind (r.values[·]?)

/-- The values under the names of their columns, as far as there are both. -/
def cells (r : Row) : List (String × Value) := r.columns.zip r.values

end Row

end RelationQuery
