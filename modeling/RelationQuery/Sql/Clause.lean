import RelationQuery.Sql.Piece

/-!
The clauses that statements share: joins, filters and the order of rows.
-/

namespace RelationQuery

inductive Comparison where
  | eq
  | ne
  | lt
  | le
  | gt
  | ge
  deriving DecidableEq, Repr, Inhabited

def Comparison.sql : Comparison → String
  | .eq => "="
  | .ne => "<>"
  | .lt => "<"
  | .le => "<="
  | .gt => ">"
  | .ge => ">="

inductive JoinKind where
  | inner
  | left
  | right
  | outer
  | cross
  deriving DecidableEq, Repr, Inhabited

def JoinKind.sql : JoinKind → String
  | .inner => "INNER JOIN"
  | .left => "LEFT JOIN"
  | .right => "RIGHT JOIN"
  | .outer => "FULL OUTER JOIN"
  | .cross => "CROSS JOIN"

/-- What a join reads. -/
inductive JoinSource where
  | table (table : Table)
  /-- a written subquery under an alias -/
  | derived (sql asName : String)
  deriving DecidableEq

/-- What ties the rows of a join together. -/
inductive JoinTie where
  | free
  | conditions (terms : List (Column × Comparison × Column))
  | shared (column : String)
  deriving DecidableEq

structure JoinClause where
  kind : JoinKind
  source : JoinSource
  tie : JoinTie
  deriving DecidableEq

/-- `left op right` -/
def Comparison.relate (left : Column) (op : Comparison) (right : List Piece) : List Piece :=
  left.pieces ++ .text (" " ++ op.sql ++ " ") :: right

def JoinSource.pieces : JoinSource → List Piece
  | .table t => t.pieces
  | .derived sql asName => [.text ("(" ++ sql ++ ") AS "), .ident asName]

def JoinTie.pieces : JoinTie → List Piece
  | .free => []
  | .conditions terms =>
    .text " ON " ::
      Piece.separate " AND " (terms.map fun (left, op, right) => op.relate left right.pieces)
  | .shared column => [.text " USING (", .ident column, .text ")"]

def JoinClause.pieces (j : JoinClause) : List Piece :=
  .text (j.kind.sql ++ " ") :: j.source.pieces ++ j.tie.pieces

/-- One term of a WHERE clause; a row has to satisfy all of them. -/
inductive Filter where
  | compare (column : Column) (op : Comparison) (value : Value)
  /-- compares two columns, as a correlation does -/
  | columns (left : Column) (op : Comparison) (right : Column)
  | like (column : Column) (pattern : Value)
  /-- no row has its value in an empty list -/
  | oneOf (column : Column) (values : List Value)
  | isNull (column : Column) (negated : Bool)
  | between (column : Column) (low high : Value)
  deriving DecidableEq

def Filter.eq (column : Column) (value : Value) : Filter := .compare column .eq value

def Filter.pieces : Filter → List Piece
  | .compare column op value => op.relate column [.value value]
  | .columns left op right => op.relate left right.pieces
  | .like column pattern => column.pieces ++ [.text " LIKE ", .value pattern]
  | .oneOf _ [] => [.text "1 = 0"]
  | .oneOf column values =>
    column.pieces ++ .text " IN (" :: Piece.separate ", " (values.map fun v => [.value v]) ++
      [.text ")"]
  | .isNull column negated =>
    column.pieces ++ [.text (if negated then " IS NOT NULL" else " IS NULL")]
  | .between column low high =>
    column.pieces ++ [.text " BETWEEN ", .value low, .text " AND ", .value high]

/-- The WHERE clause, if there are filters. -/
def Filter.clause (filters : List Filter) : List Piece :=
  Piece.clause " WHERE " " AND " (filters.map Filter.pieces)

inductive Direction where
  | ascending
  | descending
  deriving DecidableEq, Repr, Inhabited

def Direction.sql : Direction → String
  | .ascending => "ASC"
  | .descending => "DESC"

end RelationQuery
