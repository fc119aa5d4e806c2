import RelationQuery.Sql.Clause

/-!
SELECT statements.
-/

namespace RelationQuery

/-- One entry of a select list. -/
inductive SelectItem where
  | column (column : Column) (asName : Option String)
  /-- SQL passed through as it is -/
  | expression (sql : String) (asName : Option String)
  deriving DecidableEq

structure Select where
  source : Table
  items : List SelectItem := []
  joins : List JoinClause := []
  filters : List Filter := []
  groupBy : List Column := []
  orderBy : List (Column × Direction) := []
  limit : Option UInt64 := none
  offset : Option UInt64 := none
  deriving DecidableEq

namespace SelectItem

def aliasPieces : Option String → List Piece
  | some asName => [.text " AS ", .ident asName]
  | none => []

def pieces : SelectItem → List Piece
  | .column c asName => c.pieces ++ aliasPieces asName
  | .expression sql asName => .text sql :: aliasPieces asName

end SelectItem

namespace Select

/-- A count of rows as a bound value; counts past the greatest signed integer mean that one. -/
def count (n : UInt64) : Value :=
  .integer (Int64.ofNat (min n.toNat Int64.maxValue.toInt.toNat))

/-- No items select every column. -/
def itemPieces : List SelectItem → List Piece
  | [] => [.text "*"]
  | items => Piece.separate ", " (items.map SelectItem.pieces)

/-- The limit and the offset; some dialects want a limit before every offset. -/
def pagePieces (d : Dialect) (limit offset : Option UInt64) : List Piece :=
  let limited := match limit, offset, d.unlimited? with
    | some n, _, _ => [.text " LIMIT ", .value (count n)]
    | none, some _, some all => [.text (" LIMIT " ++ all)]
    | none, _, _ => []
  let skipped := match offset with
    | some n => [.text " OFFSET ", .value (count n)]
    | none => []
  limited ++ skipped

def pieces (d : Dialect) (s : Select) : List Piece :=
  .text "SELECT " :: itemPieces s.items ++
    .text " FROM " :: s.source.pieces ++
    s.joins.flatMap (.text " " :: ·.pieces) ++
    Filter.clause s.filters ++
    Piece.clause " GROUP BY " ", " (s.groupBy.map Column.pieces) ++
    Piece.clause " ORDER BY " ", "
      (s.orderBy.map fun (column, direction) => column.pieces ++ [.text (" " ++ direction.sql)]) ++
    pagePieces d s.limit s.offset

def render (d : Dialect) (s : Select) : Statement := .ofPieces d (s.pieces d)

end Select

end RelationQuery
