import RelationQuery.Json.Text
import RelationQuery.Toml.Value

/-!
The values of TOML that are written without quotes and brackets: truth values, numbers, dates and
times. An atom is read as a whole.
-/

namespace RelationQuery

/-- The double nearest to a decimal; infinity if it is too great. Decimals whose first digit stands
hundreds of places outside the range of doubles are not computed. -/
def DecimalText.nearest (text : DecimalText) : Binary64 :=
  let fraction := text.fraction.getD []
  let significand := JsonText.natValue (text.whole ++ fraction)
  let power := text.exponent.getD 0 - (fraction.length : Nat)
  let places := power + ((Nat.toDigits 10 significand).length : Nat)
  let magnitude :=
    if significand = 0 ∨ places < -400 then .zero
    else if 400 < places then .infinity
    else Binary64.nearest (significand * tenTo power.toNat) (tenTo (-power).toNat)
  if text.negative then magnitude.neg else magnitude

namespace Toml

/-- Digits without the underscores between them. -/
def underscored? (isDigit : Char → Bool) : List Char → Option (List Char)
  | [] => none
  | [c] => if isDigit c then some [c] else none
  | c :: '_' :: rest => if isDigit c then (underscored? isDigit rest).map (c :: ·) else none
  | c :: rest => if isDigit c then (underscored? isDigit rest).map (c :: ·) else none

def digits? (input : List Char) : Option (List Nat) :=
  (underscored? Char.isDigit input).map (·.map JsonText.digitValue)

/-- Decimal digits of which the first is no zero, unless it is the only one. -/
def whole? (input : List Char) : Option (List Nat) := do
  match ← digits? input with
  | 0 :: _ :: _ => none
  | digits => return digits

def sign : List Char → Bool × List Char
  | '-' :: rest => (true, rest)
  | '+' :: rest => (false, rest)
  | rest => (false, rest)

/-- An integer in the digits of a base. -/
def based? (base : Nat) (input : List Char) : Option Int := do
  let isDigit (c : Char) : Bool := (JsonText.hexDigit? c).any (· < base)
  let digits ← underscored? isDigit input
  return (digits.foldl (fun n c => base * n + (JsonText.hexDigit? c).getD 0) 0 : Nat)

/-- An integer; 128 bits have to hold it, with or without a sign. -/
def integer? (input : List Char) : Option Int := do
  let n ← match input with
    | '0' :: 'x' :: rest => based? 16 rest
    | '0' :: 'o' :: rest => based? 8 rest
    | '0' :: 'b' :: rest => based? 2 rest
    | _ =>
      let (negative, rest) := sign input
      (whole? rest).map fun digits =>
        let n : Int := JsonText.natValue digits
        if negative then -n else n
  if -(twoTo 127) ≤ n ∧ n < twoTo 128 then some n else none

def exponent? (input : List Char) : Option Int :=
  let (negative, rest) := sign input
  (digits? rest).map fun digits =>
    let n : Int := JsonText.natValue digits
    if negative then -n else n

/-- A decimal with a fraction, an exponent or both. -/
def decimal? (input : List Char) : Option DecimalText := do
  let (negative, rest) := sign input
  let mantissa := rest.takeWhile fun c => c ≠ 'e' ∧ c ≠ 'E'
  let exponent ← match rest.drop mantissa.length with
    | [] => some none
    | _ :: digits => (exponent? digits).map some
  let fraction ← match mantissa.dropWhile (· ≠ '.') with
    | [] => some none
    | _ :: digits => (digits? digits).map some
  if fraction.isNone && exponent.isNone then none
  let whole ← whole? (mantissa.takeWhile (· ≠ '.'))
  return ⟨negative, whole, fraction, exponent⟩

/-- A float. Only the word `inf` writes an infinite one. -/
def float? (input : List Char) : Option Binary64 :=
  let (negative, rest) := sign input
  let signed (x : Binary64) : Binary64 := if negative then x.neg else x
  if rest = ['i', 'n', 'f'] then some (signed .infinity)
  else if rest = ['n', 'a', 'n'] then some (signed ⟨0x7FF8000000000000⟩)
  else do
    let x := (← decimal? input).nearest
    if x.isFinite then some x else none

/-- A number of exactly two digits. -/
def twoDigits? (a b : Char) : Option Nat :=
  if a.isDigit ∧ b.isDigit then some (10 * JsonText.digitValue a + JsonText.digitValue b) else none

def daysIn (year month : Nat) : Nat :=
  if month = 2 then if year % 4 = 0 ∧ (year % 100 ≠ 0 ∨ year % 400 = 0) then 29 else 28
  else if month = 4 ∨ month = 6 ∨ month = 9 ∨ month = 11 then 30
  else 31

/-- Skips a date of the calendar. -/
def date? : List Char → Option (List Char)
  | a :: b :: c :: d :: '-' :: e :: f :: '-' :: g :: h :: rest => do
    let year := 100 * (← twoDigits? a b) + (← twoDigits? c d)
    let month ← twoDigits? e f
    let day ← twoDigits? g h
    if 1 ≤ month ∧ month ≤ 12 ∧ 1 ≤ day ∧ day ≤ daysIn year month then some rest else none
  | _ => none

/-- Skips hours and minutes. -/
def minutes? : List Char → Option (List Char)
  | a :: b :: ':' :: c :: d :: rest => do
    if (← twoDigits? a b) < 24 ∧ (← twoDigits? c d) < 60 then some rest else none
  | _ => none

/-- Skips the seconds of a time, if it has any, with their fraction. -/
def seconds? : List Char → Option (List Char)
  | ':' :: a :: b :: rest => do
    if 60 < (← twoDigits? a b) then none
    match rest with
    | '.' :: digits =>
      if (digits.takeWhile Char.isDigit).isEmpty then none
      else some (digits.dropWhile Char.isDigit)
    | _ => some rest
  | ':' :: _ => none
  | rest => some rest

def time? (input : List Char) : Option (List Char) := minutes? input >>= seconds?

/-- Whether the rest of a date with time is an offset, or nothing. -/
def isOffset : List Char → Bool
  | [] => true
  | ['Z'] | ['z'] => true
  | '+' :: rest | '-' :: rest => minutes? rest = some []
  | _ => false

/-- Whether an atom is a date, a time or both. -/
def isDateTime (input : List Char) : Bool :=
  match date? input with
  | some [] => true
  | some (c :: rest) => (c = 'T' || c = 't' || c = ' ') && (time? rest).any isOffset
  | none => time? input = some []

/-- A character that atoms are made of. -/
def isAtomChar (c : Char) : Bool :=
  c.isAlphanum || c = '_' || c = '+' || c = '-' || c = '.' || c = ':'

/-- The atom at the front, and what follows it. A date goes on with a time behind one blank. -/
def splitAtom (input : List Char) : List Char × List Char :=
  let atom := input.takeWhile isAtomChar
  match date? atom, input.drop atom.length with
  | some [], ' ' :: d :: rest =>
    if d.isDigit then
      let time := (d :: rest).takeWhile isAtomChar
      (atom ++ ' ' :: time, (d :: rest).drop time.length)
    else (atom, ' ' :: d :: rest)
  | _, rest => (atom, rest)

/-- The value of an atom. -/
def atom? (input : List Char) : Option TomlValue :=
  if input = ['t', 'r', 'u', 'e'] then some (.bool true)
  else if input = ['f', 'a', 'l', 's', 'e'] then some (.bool false)
  else if isDateTime input then some (.dateTime (String.ofList input))
  else match integer? input with
    | some n => some (.integer n)
    | none => (float? input).map .float

end Toml

end RelationQuery
