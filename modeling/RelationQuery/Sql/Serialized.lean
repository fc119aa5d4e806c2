import RelationQuery.Sql.Clause

/-!
The serialized forms of values, dialects, directions and function tables: the JSON texts that
each is read from, and the one that it is written as.
-/

namespace RelationQuery

namespace JsonText

/-- The keyword that names one of several choices: a string, or the one key of an object whose
value is null. -/
def keyword? : JsonText → Option String
  | .text pieces => stringValue? pieces
  | .object [(key, .null)] => stringValue? key
  | _ => none

def textValue? : JsonText → Option String
  | .text pieces => stringValue? pieces
  | _ => none

/-- A string or null. -/
def optionalText? : JsonText → Option (Option String)
  | .null => some none
  | json => json.textValue?.map some

end JsonText

def Value.ofText? (text : String) : Option Value := Json.read? text >>= Value.deserialize?

def Value.toText (v : Value) : String := v.toJson.write

def Dialect.ofText? (text : String) : Option Dialect := do
  Dialect.ofKeyword? (← (← JsonText.ofString? text).keyword?)

def Dialect.toText (d : Dialect) : String := (Json.text d.name).write

def Direction.keyword : Direction → String
  | .ascending => "asc"
  | .descending => "desc"

def Direction.ofKeyword? : String → Option Direction
  | "asc" => some .ascending
  | "desc" => some .descending
  | _ => none

def Direction.ofText? (text : String) : Option Direction := do
  Direction.ofKeyword? (← (← JsonText.ofString? text).keyword?)

def Direction.toText (d : Direction) : String := (Json.text d.keyword).write

namespace JsonFunctions

/-- A function table of which some members have been read. -/
structure Incomplete where
  arrayAgg : Option String := none
  object : Option String := none
  emptyArray : Option String := none
  embed : Option (Option String) := none

/-- Takes in a member. Other members than the four may say anything; none of the four comes
twice. -/
def Incomplete.member? (p : Incomplete) (key : String) (value : JsonText) : Option Incomplete :=
  match key with
  | "array_agg" => if p.arrayAgg.isSome then none else
    value.textValue?.map fun s => { p with arrayAgg := some s }
  | "object" => if p.object.isSome then none else
    value.textValue?.map fun s => { p with object := some s }
  | "empty_array" => if p.emptyArray.isSome then none else
    value.textValue?.map fun s => { p with emptyArray := some s }
  | "embed" => if p.embed.isSome then none else
    value.optionalText?.map fun s => { p with embed := some s }
  | _ => some p

def Incomplete.members? (p : Incomplete) : List (List StringPiece × JsonText) → Option Incomplete
  | [] => some p
  | (pieces, value) :: rest => do
    let key ← JsonText.stringValue? pieces
    (← p.member? key value).members? rest

/-- The table, if no member is missing but perhaps `embed`. -/
def Incomplete.complete? (p : Incomplete) : Option JsonFunctions := do
  return ⟨← p.arrayAgg, ← p.object, ← p.emptyArray, p.embed.getD none⟩

/-- Reads an object, or a list of the members in their order. -/
def ofJsonText? : JsonText → Option JsonFunctions
  | .object members => do (← Incomplete.members? {} members).complete?
  | .array [arrayAgg, object, emptyArray] => do
    return ⟨← arrayAgg.textValue?, ← object.textValue?, ← emptyArray.textValue?, none⟩
  | .array [arrayAgg, object, emptyArray, embed] => do
    return ⟨← arrayAgg.textValue?, ← object.textValue?, ← emptyArray.textValue?,
      ← embed.optionalText?⟩
  | _ => none

def ofText? (text : String) : Option JsonFunctions := JsonText.ofString? text >>= ofJsonText?

/-- The members keep their order. -/
def toText (f : JsonFunctions) : String :=
  (Json.object [
    ("array_agg", .text f.arrayAgg),
    ("object", .text f.object),
    ("empty_array", .text f.emptyArray),
    ("embed", match f.embed with
      | some function => .text function
      | none => .null)]).write

end JsonFunctions

end RelationQuery
