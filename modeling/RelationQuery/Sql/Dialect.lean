import RelationQuery.Json.Reader
import RelationQuery.Text.Quoted

/-!
What differs between databases: how names are quoted and values marked, how all rows are asked
for, and which functions build JSON.
-/

namespace RelationQuery

inductive Dialect where
  | sqlite
  | postgresql
  | mysql
  deriving DecidableEq, Repr, Inhabited

namespace Dialect

def name : Dialect → String
  | .sqlite => "sqlite"
  | .postgresql => "postgresql"
  | .mysql => "mysql"

/-- The dialect that a user means, in any mixture of ASCII capitals and small letters. -/
def parse? (text : String) : Option Dialect :=
  match text.map Char.toLower with
  | "sqlite" => some .sqlite
  | "postgresql" | "postgres" | "pg" => some .postgresql
  | "mysql" => some .mysql
  | _ => none

/-- The dialect of a configuration's exact keyword. -/
def ofKeyword? : String → Option Dialect
  | "sqlite" => some .sqlite
  | "postgresql" | "postgres" => some .postgresql
  | "mysql" => some .mysql
  | _ => none

/-- Whether placeholders carry the number of their value. -/
def numbersPlaceholders (d : Dialect) : Bool := d == .postgresql

/-- The mark for the `index`-th bound value, counted from one. -/
def placeholder (d : Dialect) (index : Nat) : String :=
  if d.numbersPlaceholders then "$" ++ toString index else "?"

/-- The mark around names; inside a name it is doubled. -/
def nameMark : Dialect → Char
  | .mysql => '\x60'
  | .sqlite | .postgresql => '"'

def quoteName (d : Dialect) (name : String) : String := Text.quote d.nameMark name

/-- Makes a driver read a JSON expression back as text. -/
def jsonAsText (d : Dialect) (expression : String) : String :=
  match d with
  | .postgresql => expression ++ "::text"
  | .sqlite | .mysql => expression

/-- The limit that stands for no limit, where an offset needs one before it. -/
def unlimited? : Dialect → Option String
  | .sqlite => some "-1"
  | .mysql => some "18446744073709551615"
  | .postgresql => none

end Dialect

/-- The functions that aggregation columns are built from. -/
structure JsonFunctions where
  /-- the aggregate that turns rows into one array -/
  arrayAgg : String
  /-- the constructor of objects, from keys and values in turn -/
  object : String
  /-- the expression for the empty array -/
  emptyArray : String
  /-- the function that makes JSON of a nested result again, where it would arrive as text -/
  embed : Option String
  deriving DecidableEq, Repr

def Dialect.jsonFunctions : Dialect → JsonFunctions
  | .sqlite => ⟨"json_group_array", "json_object", "'[]'", some "json"⟩
  | .postgresql => ⟨"json_agg", "json_build_object", "'[]'::json", none⟩
  | .mysql => ⟨"JSON_ARRAYAGG", "JSON_OBJECT", "JSON_ARRAY()", none⟩

/-- What statements are written for. -/
structure Target where
  dialect : Dialect
  json : JsonFunctions
  deriving DecidableEq, Repr

/-- A dialect with its own functions. -/
def Target.ofDialect (d : Dialect) : Target := ⟨d, d.jsonFunctions⟩

end RelationQuery
