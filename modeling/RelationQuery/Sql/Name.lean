import RelationQuery.Text.Qualified

/-!
The names in a statement: tables under an alias, and columns that may be qualified by one.
-/

namespace RelationQuery

/-- A table and the alias that columns refer to it by. -/
structure Table where
  name : String
  asName : String
  deriving DecidableEq, Repr, Inhabited

structure Column where
  qualifier : Option String
  name : String
  deriving DecidableEq, Repr, Inhabited

namespace Column

/-- A column without qualifier; dots belong to its name. -/
def bare (name : String) : Column := ⟨none, name⟩

def qualified (qualifier name : String) : Column := ⟨some qualifier, name⟩

/-- Reads `alias.column` or `column`. -/
def parse (text : String) : Column :=
  let (qualifier, name) := Text.splitQualified text
  ⟨qualifier, name⟩

/-- Reads a column and qualifies it by `asName` if it has no qualifier of its own. -/
def resolve (text asName : String) : Column :=
  let column := parse text
  { column with qualifier := some (column.qualifier.getD asName) }

end Column

end RelationQuery
