import RelationQuery.Sql.Dialect
import RelationQuery.Toml.Document

/-!
Configuration: the dialect, and function tables other than its own. It is written in TOML; the
document may have no other keys than `dialect` and `json`.
-/

namespace RelationQuery

structure Config where
  dialect : Dialect := .sqlite
  /-- takes the place of the dialect's own functions -/
  json : Option JsonFunctions := none
  deriving DecidableEq, Repr

namespace TomlValue

def text? : TomlValue → Option String
  | .text s => some s
  | _ => none

/-- A table or an array without anything in it. -/
def isHollow : TomlValue → Bool
  | .table _ [] | .array _ [] => true
  | _ => false

end TomlValue

/-- A keyword, or a table whose one key is the keyword and holds nothing. -/
def Dialect.ofToml? : TomlValue → Option Dialect
  | .text keyword => ofKeyword? keyword
  | .table _ [(keyword, value)] => if value.isHollow then ofKeyword? keyword else none
  | _ => none

namespace JsonFunctions

/-- Reads a table, of which other keys are passed over, or an array of the members in their
order, of which more items are. -/
def ofToml? : TomlValue → Option JsonFunctions
  | .table _ members => do
    let arrayAgg ← (← members.lookup "array_agg").text?
    let object ← (← members.lookup "object").text?
    let emptyArray ← (← members.lookup "empty_array").text?
    match members.lookup "embed" with
    | none => return ⟨arrayAgg, object, emptyArray, none⟩
    | some embed => return ⟨arrayAgg, object, emptyArray, some (← embed.text?)⟩
  | .array _ (arrayAgg :: object :: emptyArray :: rest) => do
    let embed ← match rest with
      | [] => some none
      | embed :: _ => embed.text?.map some
    return ⟨← arrayAgg.text?, ← object.text?, ← emptyArray.text?, embed⟩
  | _ => none

end JsonFunctions

namespace Config

def ofMembers? (members : TomlMembers) : Option Config := do
  if members.any fun (key, _) => key != "dialect" && key != "json" then none
  let dialect ← match members.lookup "dialect" with
    | none => some .sqlite
    | some value => Dialect.ofToml? value
  let json ← match members.lookup "json" with
    | none => some none
    | some value => (JsonFunctions.ofToml? value).map some
  return ⟨dialect, json⟩

def parse? (text : String) : Option Config := Toml.read? text >>= ofMembers?

/-- What statements are written for. -/
def target (c : Config) : Target := ⟨c.dialect, c.json.getD c.dialect.jsonFunctions⟩

end Config

end RelationQuery
