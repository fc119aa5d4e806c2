import RelationQuery.Sql.Dialect
import RelationQuery.Sql.Name
import RelationQuery.Sql.Value

/-!
Statements as sequences of pieces. A piece is fixed text, a name to quote or a value to bind, so
a sequence says the same in every dialect; names are quoted and placeholders numbered when it is
written.
-/

namespace RelationQuery

inductive Piece where
  | text (sql : String)
  | ident (name : String)
  | value (value : Value)
  deriving DecidableEq

/-- Written SQL and its values, in the order of their placeholders. -/
structure Statement where
  sql : String
  params : List Value
  deriving DecidableEq

namespace Piece

/-- The value that a piece binds. -/
def bound? : Piece → Option Value
  | .value v => some v
  | _ => none

/-- The text of pieces that follow `bound` bound values. -/
def write (d : Dialect) (bound : Nat) : List Piece → List Char
  | [] => []
  | .text sql :: rest => sql.toList ++ write d bound rest
  | .ident name :: rest => (d.quoteName name).toList ++ write d bound rest
  | .value _ :: rest => (d.placeholder (bound + 1)).toList ++ write d (bound + 1) rest

/-- Sequences with a text between each two. -/
def separate (separator : String) (parts : List (List Piece)) : List Piece :=
  List.intercalate [.text separator] parts

/-- Sequences with `first` before the first of them and `next` before every other one. -/
def clause (first next : String) : List (List Piece) → List Piece
  | [] => []
  | part :: parts => .text first :: part ++ parts.flatMap (.text next :: ·)

end Piece

def Statement.ofPieces (d : Dialect) (pieces : List Piece) : Statement :=
  ⟨String.ofList (Piece.write d 0 pieces), pieces.filterMap Piece.bound?⟩

namespace Column

def pieces (c : Column) : List Piece :=
  match c.qualifier with
  | some qualifier => [.ident qualifier, .text ".", .ident c.name]
  | none => [.ident c.name]

/-- A column alone, as text. -/
def sql (d : Dialect) (c : Column) : String := (Statement.ofPieces d c.pieces).sql

end Column

/-- The alias is left out where it is empty or the table's own name. -/
def Table.pieces (t : Table) : List Piece :=
  if t.asName.isEmpty || t.asName == t.name then [.ident t.name]
  else [.ident t.name, .text " AS ", .ident t.asName]

end RelationQuery
