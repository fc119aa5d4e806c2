import RelationQuery.Json.Printer
import RelationQuery.Json.Reader
import RelationQuery.Text.Quoted

/-!
The values that statements bind and rows hold, and their three readings as JSON: a value of a row
as JSON, a member of JSON data as a bound value, and a value's own serialized form.
-/

namespace RelationQuery

inductive Value where
  | null
  | integer (n : Int64)
  | real (x : Binary64)
  | text (s : String)
  | blob (bytes : List UInt8)
  | bool (b : Bool)
  deriving DecidableEq, Inhabited

namespace Value

def isNull : Value → Bool
  | .null => true
  | _ => false

def asText? : Value → Option String
  | .text s => some s
  | _ => none

/-- Integers as themselves, truth values as 0 and 1. -/
def asInteger? : Value → Option Int64
  | .integer n => some n
  | .bool b => some (if b then 1 else 0)
  | _ => none

/-- An absent value is null. -/
def ofOption {α : Type} (value : α → Value) : Option α → Value
  | some a => value a
  | none => .null

/-- The integer, if 64 bits with a sign hold it. -/
def int64? (n : Int) : Option Int64 :=
  if Int64.minValue.toInt ≤ n ∧ n ≤ Int64.maxValue.toInt then some (Int64.ofInt n) else none

/-- A value of a row as JSON. JSON has no infinities and NaNs, which become null; a blob becomes
the array of its bytes. -/
def toJson : Value → Json
  | .null => .null
  | .integer n => .integer n.toInt
  | .real x => if x.isFinite then .real x else .null
  | .text s => .text s
  | .blob bytes => .array (bytes.map fun b => .integer b.toNat)
  | .bool b => .bool b

/-- An integer of JSON data as a value: a double where 64 bits with a sign do not hold it. -/
def ofInteger (n : Int) : Value :=
  match int64? n with
  | some i => .integer i
  | none => .real (Binary64.ofInt n)

/-- JSON data as a bound value: scalars as themselves, arrays and objects as their text. -/
def ofJson : Json → Value
  | .null => .null
  | .bool b => .bool b
  | .integer n => ofInteger n
  | .real x => .real x
  | .text s => .text s
  | json => .text json.write

/-- A byte, if the JSON value is an integer below 256. -/
def byte? : Json → Option UInt8
  | .integer n => if 0 ≤ n ∧ n < 256 then some (UInt8.ofNat n.toNat) else none
  | _ => none

/-- The value with this serialized form. An array has to be one of bytes; objects are none. -/
def deserialize? : Json → Option Value
  | .null => some .null
  | .integer n => some (ofInteger n)
  | .real x => some (.real x)
  | .text s => some (.text s)
  | .array items => (items.mapM byte?).map .blob
  | .bool b => some (.bool b)
  | .object _ => none

/-- Positional from `0.0001` to below `1e16`, without a sign in the exponent. -/
def realFormat : RealFormat := ⟨-4, 16, false, .up⟩

/-- A double for a message. -/
def describeReal (x : Binary64) : String :=
  if x.isNaN then "NaN"
  else if x.isInfinite then if x.isNegative then "-inf" else "inf"
  else String.ofList (realFormat.write x)

/-- A value for a message, under the name of its kind. -/
def describe : Value → String
  | .null => "Null"
  | .integer n => "Integer(" ++ toString n.toInt ++ ")"
  | .real x => "Real(" ++ describeReal x ++ ")"
  | .text s => "Text(" ++ Text.quote '"' s ++ ")"
  | .blob bytes => "Blob([" ++ ", ".intercalate (bytes.map fun b => toString b.toNat) ++ "])"
  | .bool b => "Bool(" ++ (if b then "true" else "false") ++ ")"

end Value

end RelationQuery
