import RelationQuery.Json.Basic
import RelationQuery.Number.RealFormat

/-!
JSON written without blanks. Strings keep every character but the quote, the backslash and the
control characters, which are escaped.
-/

namespace RelationQuery.Json

/-- Positional from `0.00001` to below `1e+16`, always with a fraction; `1e-6` and `1e+16` have a
sign in the exponent. -/
def realFormat : RealFormat := ⟨-5, 16, true, .toEven⟩

/-- A control character as `\u` with four digits. -/
def controlEscape (c : Char) : List Char :=
  ['\\', 'u', '0', '0', Nat.digitChar (c.toNat / 16), Nat.digitChar (c.toNat % 16)]

def escape (c : Char) : List Char :=
  if c = '"' then ['\\', '"']
  else if c = '\\' then ['\\', '\\']
  else if c = '\n' then ['\\', 'n']
  else if c = '\r' then ['\\', 'r']
  else if c = '\t' then ['\\', 't']
  else if c = '\x08' then ['\\', 'b']
  else if c = '\x0c' then ['\\', 'f']
  else if c.toNat < 0x20 then controlEscape c
  else [c]

def quoted (text : String) : List Char := '"' :: text.toList.flatMap escape ++ ['"']

mutual

def chars : Json → List Char
  | .null => "null".toList
  | .bool true => "true".toList
  | .bool false => "false".toList
  | .integer n => (toString n).toList
  | .real x => realFormat.write x
  | .text s => quoted s
  | .array items => '[' :: itemChars items ++ [']']
  | .object members => '\x7b' :: memberChars members ++ ['\x7d']

/-- Items separated by commas. -/
def itemChars : List Json → List Char
  | [] => []
  | [item] => item.chars
  | item :: next :: rest => item.chars ++ ',' :: itemChars (next :: rest)

/-- Members separated by commas. -/
def memberChars : List (String × Json) → List Char
  | [] => []
  | [(key, value)] => quoted key ++ ':' :: value.chars
  | (key, value) :: next :: rest =>
    quoted key ++ ':' :: value.chars ++ ',' :: memberChars (next :: rest)

end

def write (json : Json) : String := String.ofList json.chars

end RelationQuery.Json
