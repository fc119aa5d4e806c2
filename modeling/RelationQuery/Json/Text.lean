import RelationQuery.Number.Decimal

/-!
JSON as it is written. The grammar alone decides here: members stay in the order of the text,
repeated ones too, and neither escapes nor numbers are evaluated yet, so that a value can be
passed over whose numbers are too great or whose escapes name no character.
-/

namespace RelationQuery

/-- A character of a string, or a `\u` escape with its code unit. -/
inductive StringPiece where
  | char (c : Char)
  | unit (n : Nat)
  deriving DecidableEq, Repr

inductive JsonText where
  | null
  | bool (value : Bool)
  | number (decimal : DecimalText)
  | text (pieces : List StringPiece)
  | array (items : List JsonText)
  | object (members : List (List StringPiece × JsonText))

namespace JsonText

def isBlank (c : Char) : Bool := c = ' ' || c = '\t' || c = '\n' || c = '\r'

def skipBlanks (input : List Char) : List Char := input.dropWhile isBlank

/-- The value of a hexadecimal digit. -/
def hexDigit? (c : Char) : Option Nat :=
  if '0' ≤ c ∧ c ≤ '9' then some (c.toNat - '0'.toNat)
  else if 'a' ≤ c ∧ c ≤ 'f' then some (c.toNat - 'a'.toNat + 10)
  else if 'A' ≤ c ∧ c ≤ 'F' then some (c.toNat - 'A'.toNat + 10)
  else none

/-- The value of hexadecimal digits. -/
def hexValue? (digits : List Char) : Option Nat :=
  digits.foldlM (fun n c => (hexDigit? c).map (16 * n + ·)) 0

/-- The character of a one-letter escape. -/
def escaped? (c : Char) : Option Char :=
  if c = '"' ∨ c = '\\' ∨ c = '/' then some c
  else if c = 'b' then some '\x08'
  else if c = 'f' then some '\x0c'
  else if c = 'n' then some '\n'
  else if c = 'r' then some '\r'
  else if c = 't' then some '\t'
  else none

/-- The rest of a string behind its opening quote, and what follows its closing one. -/
def string? : List Char → Option (List StringPiece × List Char)
  | [] => none
  | '"' :: rest => some ([], rest)
  | '\\' :: 'u' :: a :: b :: c :: d :: rest => do
    let n ← hexValue? [a, b, c, d]
    let (pieces, rest) ← string? rest
    return (.unit n :: pieces, rest)
  | '\\' :: e :: rest => do
    let c ← escaped? e
    let (pieces, rest) ← string? rest
    return (.char c :: pieces, rest)
  | c :: rest => do
    if c.toNat < 0x20 ∨ c = '\\' then none
    let (pieces, rest) ← string? rest
    return (.char c :: pieces, rest)

def digitValue (c : Char) : Nat := c.toNat - '0'.toNat

/-- The digits at the front, and what follows them. -/
def digits (input : List Char) : List Nat × List Char :=
  ((input.takeWhile Char.isDigit).map digitValue, input.dropWhile Char.isDigit)

/-- The digits at the front, at least one. -/
def someDigits? (input : List Char) : Option (List Nat × List Char) :=
  match digits input with
  | ([], _) => none
  | answer => some answer

/-- The digits before the point: a zero stands alone. -/
def whole? (input : List Char) : Option (List Nat × List Char) := do
  match ← someDigits? input with
  | (0 :: _ :: _, _) => none
  | answer => return answer

def fraction? : List Char → Option (Option (List Nat) × List Char)
  | '.' :: rest => do
    let (ds, rest) ← someDigits? rest
    return (some ds, rest)
  | rest => some (none, rest)

/-- The natural that digits write. -/
def natValue (ds : List Nat) : Nat := ds.foldl (fun n d => 10 * n + d) 0

def exponent? : List Char → Option (Option Int × List Char)
  | e :: rest =>
    if e = 'e' ∨ e = 'E' then do
      let (negative, rest) := match rest with
        | '-' :: rest => (true, rest)
        | '+' :: rest => (false, rest)
        | rest => (false, rest)
      let (ds, rest) ← someDigits? rest
      let n : Int := natValue ds
      return (some (if negative then -n else n), rest)
    else some (none, e :: rest)
  | [] => some (none, [])

def number? (input : List Char) : Option (DecimalText × List Char) := do
  let (negative, rest) := match input with
    | '-' :: rest => (true, rest)
    | rest => (false, rest)
  let (whole, rest) ← whole? rest
  let (fraction, rest) ← fraction? rest
  let (exponent, rest) ← exponent? rest
  return (⟨negative, whole, fraction, exponent⟩, rest)

mutual

/-- A value, and what follows it. `fuel` bounds the calls. -/
def value? : Nat → List Char → Option (JsonText × List Char)
  | 0, _ => none
  | fuel + 1, input =>
    match skipBlanks input with
    | 'n' :: 'u' :: 'l' :: 'l' :: rest => some (.null, rest)
    | 't' :: 'r' :: 'u' :: 'e' :: rest => some (.bool true, rest)
    | 'f' :: 'a' :: 'l' :: 's' :: 'e' :: rest => some (.bool false, rest)
    | '"' :: rest => do
      let (pieces, rest) ← string? rest
      return (.text pieces, rest)
    | '[' :: rest =>
      match skipBlanks rest with
      | ']' :: rest => some (.array [], rest)
      | rest => do
        let (items, rest) ← items? fuel rest
        return (.array items, rest)
    | '\x7b' :: rest =>
      match skipBlanks rest with
      | '\x7d' :: rest => some (.object [], rest)
      | rest => do
        let (members, rest) ← members? fuel rest
        return (.object members, rest)
    | rest => do
      let (decimal, rest) ← number? rest
      return (.number decimal, rest)

/-- The items of an array up to its closing bracket, at least one. -/
def items? : Nat → List Char → Option (List JsonText × List Char)
  | 0, _ => none
  | fuel + 1, input => do
    let (item, rest) ← value? fuel input
    match skipBlanks rest with
    | ']' :: rest => return ([item], rest)
    | ',' :: rest =>
      let (items, rest) ← items? fuel rest
      return (item :: items, rest)
    | _ => none

/-- The members of an object up to its closing brace, at least one. -/
def members? : Nat → List Char → Option (List (List StringPiece × JsonText) × List Char)
  | 0, _ => none
  | fuel + 1, input =>
    match skipBlanks input with
    | '"' :: rest => do
      let (key, rest) ← string? rest
      match skipBlanks rest with
      | ':' :: rest =>
        let (value, rest) ← value? fuel rest
        match skipBlanks rest with
        | '\x7d' :: rest => return ([(key, value)], rest)
        | ',' :: rest =>
          let (members, rest) ← members? fuel rest
          return ((key, value) :: members, rest)
        | _ => none
      | _ => none
    | _ => none

end

/-- A text that is one value between blanks. Every second call at least reads a character, so
twice the length of the text is fuel enough. -/
def ofString? (text : String) : Option JsonText := do
  let input := text.toList
  let (value, rest) ← value? (2 * input.length + 2) input
  if (skipBlanks rest).isEmpty then some value else none

end JsonText

end RelationQuery
