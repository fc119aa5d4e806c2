import RelationQuery.Query.Plan
import RelationQuery.Record.Row
import RelationQuery.Text.Position

/-!
Records: rows with their arrays decoded and their keys spelt in the root entity's case.
-/

namespace RelationQuery

/-- Why data cannot be turned into records, or into values to bind. -/
inductive MappingError where
  /-- the text of a relation is not a JSON array -/
  | malformed (relation : String)
  /-- a relation holds something else than text -/
  | notText (relation : String) (value : Value)
  /-- data for an entity that is not an object -/
  | notObject (entity : String) (data : Json)
  /-- data that refused to be serialized -/
  | refused (reason : String)

/-- What is wrong inside a malformed text is left out; `<json>` stands for it. The reason of a
refusal may end with a position. -/
def MappingError.message : MappingError → String
  | .malformed relation => "relation \"" ++ relation ++ "\": <json>"
  | .notText relation value =>
    "relation \"" ++ relation ++ "\": expected JSON text, got " ++ value.describe
  | .notObject entity data => entity ++ " data must serialize to an object, got " ++ data.write
  | .refused reason => Position.normalize reason

namespace Json

mutual

/-- Spells every key of every object in a convention. Where two keys become one, the value of the
greater old key stays. -/
def convertKeys (fieldCase : FieldCase) : Json → Json
  | .array items => .array (convertItems fieldCase items)
  | .object members => ofPairs (convertMembers fieldCase members)
  | json => json

def convertItems (fieldCase : FieldCase) : List Json → List Json
  | [] => []
  | item :: rest => convertKeys fieldCase item :: convertItems fieldCase rest

def convertMembers (fieldCase : FieldCase) : List (String × Json) → List (String × Json)
  | [] => []
  | (key, value) :: rest =>
    (fieldCase.apply key, convertKeys fieldCase value) :: convertMembers fieldCase rest

end

/-- An integer of 64 bits with a sign, or null. -/
def optionalInteger? : Json → Option (Option Int64)
  | .null => some none
  | .integer n => (Value.int64? n).map some
  | _ => none

end Json

structure Record where
  fields : List (String × Json) := []
  relations : List (String × List Json) := []

namespace Record

/-- The items of a relation's column; null has none. -/
def decodeRelation (column : String) : Value → Except MappingError (List Json)
  | .null => .ok []
  | .text text =>
    match Json.readArray? text with
    | some items => .ok items
    | none => .error (.malformed column)
  | value => .error (.notText column value)

/-- Takes in a column, as a relation if it is one of `relations`. -/
def insertCell (relations : List String) (fieldCase : FieldCase) (record : Record)
    (cell : String × Value) : Except MappingError Record := do
  let key := fieldCase.apply cell.1
  if relations.contains cell.1 then
    let items ← decodeRelation cell.1 cell.2
    let converted := items.map (Json.convertKeys fieldCase)
    return { record with relations := Members.insert key converted record.relations }
  else return { record with fields := Members.insert key cell.2.toJson record.fields }

/-- The record of a row whose columns `relations` hold arrays. -/
def ofRow (relations : List String) (fieldCase : FieldCase) (row : Row) :
    Except MappingError Record :=
  row.cells.foldlM (insertCell relations fieldCase) {}

def field? (r : Record) (name : String) : Option Json := Members.get? name r.fields

/-- The items of a relation; `none` if it was not asked for. -/
def relation? (r : Record) (name : String) : Option (List Json) := Members.get? name r.relations

/-- Fields and relations in one object; a relation takes the place of a field of its name. -/
def toJson (r : Record) : Json :=
  .object (Members.insertAll r.fields (r.relations.map fun (name, items) => (name, .array items)))

/-- The record as a map to optional integers, if it is one. -/
def integers? (r : Record) : Option (List (String × Option Int64)) :=
  match r.toJson with
  | .object members => members.mapM fun (key, value) => value.optionalInteger?.map (key, ·)
  | _ => none

end Record

end RelationQuery
