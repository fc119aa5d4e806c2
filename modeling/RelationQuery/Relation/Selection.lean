import RelationQuery.Entity
import RelationQuery.Sql.Select

/-!
The columns that a relation contributes to its rows.
-/

namespace RelationQuery

inductive Selection where
  /-- a column, which may be qualified -/
  | column (name : String)
  /-- SQL passed through as it is -/
  | raw (sql : String)
  /-- a column under another name -/
  | renamed (column asName : String)
  deriving DecidableEq, Repr

namespace Selection

/-- The name that the column has in rows and JSON objects. -/
def outputName : Selection → String
  | .column name => Text.bareName name
  | .raw sql => sql
  | .renamed _ asName => asName

/-- Spells the column in a convention. An `asName` renames it, in place of the name it may have
been given before; raw SQL stays as it is. -/
def convert (fieldCase : FieldCase) (asName : Option String) : Selection → Selection
  | .raw sql => .raw sql
  | .column name =>
    match asName with
    | some asName => .renamed (fieldCase.applyQualified name) asName
    | none => .column (fieldCase.applyQualified name)
  | .renamed name old => .renamed (fieldCase.applyQualified name) (asName.getD old)

/-- The entry of a select list, for a column of the table under `asName`. -/
def item (asName : String) : Selection → SelectItem
  | .column name => .column (Column.resolve name asName) none
  | .raw sql => .expression sql none
  | .renamed name new => .column (Column.resolve name asName) (some new)

end Selection

/-- A column as the fields of an entity name it, turned into a column of its table. -/
def Entity.select (e : Entity) (selection : Selection) : Selection :=
  match e.fieldCase with
  | .camel => selection.convert .snake none
  | .snake => selection

end RelationQuery
