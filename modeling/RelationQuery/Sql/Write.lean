import RelationQuery.Sql.Clause

/-!
The statements that change rows: INSERT, UPDATE and DELETE.
-/

namespace RelationQuery

structure Insert where
  table : String
  values : List (String × Value) := []
  deriving DecidableEq

structure Update where
  table : String
  assignments : List (String × Value) := []
  filters : List Filter := []
  deriving DecidableEq

structure Delete where
  table : String
  filters : List Filter := []
  deriving DecidableEq

/-- Without values every column takes its default. -/
def Insert.pieces (s : Insert) : List Piece :=
  match s.values with
  | [] => [.text "INSERT INTO ", .ident s.table, .text " DEFAULT VALUES"]
  | values =>
    .text "INSERT INTO " :: .ident s.table ::
      .text " (" :: Piece.separate ", " (values.map fun (column, _) => [.ident column]) ++
      .text ") VALUES (" :: Piece.separate ", " (values.map fun (_, value) => [.value value]) ++
      [.text ")"]

def Insert.render (d : Dialect) (s : Insert) : Statement := .ofPieces d s.pieces

def Update.pieces (s : Update) : List Piece :=
  .text "UPDATE " :: .ident s.table ::
    .text " SET " ::
      Piece.separate ", "
        (s.assignments.map fun (column, value) => [.ident column, .text " = ", .value value]) ++
    Filter.clause s.filters

/-- No statement if there is nothing to assign. -/
def Update.render? (d : Dialect) (s : Update) : Option Statement :=
  if s.assignments.isEmpty then none else some (.ofPieces d s.pieces)

def Delete.pieces (s : Delete) : List Piece :=
  .text "DELETE FROM " :: .ident s.table :: Filter.clause s.filters

def Delete.render (d : Dialect) (s : Delete) : Statement := .ofPieces d s.pieces

end RelationQuery
