import RelationQuery.Json.Basic
import RelationQuery.Json.Text

/-!
What JSON text means. Of members with one key the last counts. Escapes must name characters: a
code unit of the upper surrogate half is followed by one of the lower half. A number without
fraction and exponent is an integer if 64 bits hold it, with or without a sign; every other one
is a double and must be finite. Brackets nest at most 127 deep.
-/

namespace RelationQuery

/-- The characters of a string's pieces. -/
def StringPiece.decode? : List StringPiece → Option (List Char)
  | [] => some []
  | .char c :: rest => (decode? rest).map (c :: ·)
  | .unit high :: rest =>
    if high < 0xD800 ∨ 0xE000 ≤ high then (decode? rest).map (Char.ofNat high :: ·)
    else if 0xDC00 ≤ high then none
    else match rest with
      | .unit low :: rest =>
        if 0xDC00 ≤ low ∧ low < 0xE000 then
          (decode? rest).map
            (Char.ofNat (0x10000 + (high - 0xD800) * 0x400 + (low - 0xDC00)) :: ·)
        else none
      | _ => none

namespace JsonText

def stringValue? (pieces : List StringPiece) : Option String :=
  (StringPiece.decode? pieces).map String.ofList

/-- An integer that is written without fraction and exponent and fits 64 bits; `-0` is a
double. -/
def integerValue? (d : DecimalText) : Option Int :=
  match d.fraction, d.exponent with
  | none, none =>
    let n : Int := natValue d.whole
    if d.negative then if 0 < n ∧ n ≤ twoTo 63 then some (-n) else none
    else if n < twoTo 64 then some n else none
  | _, _ => none

def numberValue? (d : DecimalText) : Option Json :=
  match integerValue? d with
  | some n => some (.integer n)
  | none => d.toBinary64?.map .real

mutual

/-- The value of a text that may open `depth` more brackets inside each other. -/
def toJson? (depth : Nat) : JsonText → Option Json
  | .null => some .null
  | .bool b => some (.bool b)
  | .number d => numberValue? d
  | .text pieces => (stringValue? pieces).map .text
  | .array items => if depth = 0 then none else (itemsToJson? (depth - 1) items).map .array
  | .object members => if depth = 0 then none else (membersToJson? (depth - 1) members).map .ofPairs

def itemsToJson? (depth : Nat) : List JsonText → Option (List Json)
  | [] => some []
  | item :: rest => do
    let value ← toJson? depth item
    let values ← itemsToJson? depth rest
    return value :: values

def membersToJson? (depth : Nat) :
    List (List StringPiece × JsonText) → Option (List (String × Json))
  | [] => some []
  | (key, member) :: rest => do
    let name ← stringValue? key
    let value ← toJson? depth member
    let values ← membersToJson? depth rest
    return (name, value) :: values

end

end JsonText

namespace Json

/-- How many brackets may be open at once. -/
def maxDepth : Nat := 127

def read? (text : String) : Option Json := JsonText.ofString? text >>= JsonText.toJson? maxDepth

/-- The items of a text that is an array. -/
def readArray? (text : String) : Option (List Json) :=
  match read? text with
  | some (.array items) => some items
  | _ => none

end Json

end RelationQuery
