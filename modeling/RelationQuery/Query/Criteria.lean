import RelationQuery.Entity
import RelationQuery.Sql.Select

/-!
What a caller asks of a query besides its relations: which rows, in which order, how many. Columns
are named by the fields of the root entity.
-/

namespace RelationQuery

inductive TermOp where
  | compare (op : Comparison)
  | like
  | oneOf
  | isNull
  | isNotNull
  deriving DecidableEq, Repr

/-- One condition on the rows. -/
structure Term where
  column : String
  op : TermOp
  values : List Value
  deriving DecidableEq

/-- `field` from `low` to `high`, both included. -/
structure DateRange where
  field : String
  low : Value
  high : Value
  deriving DecidableEq

structure Criteria where
  terms : List Term := []
  dates : Option DateRange := none
  groupBy : List String := []
  orderBy : List (String × Direction) := []
  limit : Option UInt64 := none
  offset : Option UInt64 := none
  deriving DecidableEq

/-- Asks that a column has a value. -/
def Term.eq (column : String) (value : Value) : Term := ⟨column, .compare .eq, [value]⟩

/-- The filter of a term. An operator that takes one value takes the first, or null. -/
def Term.filter (term : Term) (column : Column) : Filter :=
  let first := term.values.headD .null
  match term.op with
  | .compare op => .compare column op first
  | .like => .like column first
  | .oneOf => .oneOf column term.values
  | .isNull => .isNull column false
  | .isNotNull => .isNull column true

namespace Criteria

/-- The filters on an entity's rows: the terms in order, then the dates. -/
def filters (c : Criteria) (root : Entity) : List Filter :=
  c.terms.map (fun term => term.filter (root.column term.column)) ++
    (c.dates.map fun range => .between (root.column range.field) range.low range.high).toList

end Criteria

end RelationQuery
