import RelationQuery.Json.Text
import RelationQuery.Number.Power

/-!
Messages that end with the position they speak of, as `no value at line 3 column 5` does. The last
such mark of a message counts, and nothing may stand behind the column.
-/

namespace RelationQuery

/-- A place in a text. Lines count from one; line zero stands for no place. -/
structure Position where
  line : Nat
  column : Nat

namespace Position

def lineMark : List Char := [' ', 'a', 't', ' ', 'l', 'i', 'n', 'e', ' ']

def columnMark : List Char := [' ', 'c', 'o', 'l', 'u', 'm', 'n', ' ']

/-- What stands behind a mark at the front of a text. -/
def behindMark? : List Char → List Char → Option (List Char)
  | [], text => some text
  | _ :: _, [] => none
  | c :: mark, d :: text => if c = d then behindMark? mark text else none

/-- What stands before and behind the last mark in a text. -/
def splitLast? (mark : List Char) : List Char → Option (List Char × List Char)
  | [] => none
  | c :: rest =>
    match splitLast? mark rest with
    | some (before, behind) => some (c :: before, behind)
    | none => (behindMark? mark (c :: rest)).map fun behind => ([], behind)

/-- The digits at the front as a number that 64 bits hold, and what follows them. -/
def number? (input : List Char) : Option (Nat × List Char) := do
  let (digits, rest) ← JsonText.someDigits? input
  let n := JsonText.natValue digits
  if n < twoTo 64 then some (n, rest) else none

/-- The position that a text is, behind its first mark. -/
def read? (text : List Char) : Option Position := do
  let (line, rest) ← number? text
  match ← number? (← behindMark? columnMark rest) with
  | (column, []) => return ⟨line, column⟩
  | _ => none

/-- The end of a message about this place. -/
def text (p : Position) : String :=
  if p.line = 0 then ""
  else String.ofList lineMark ++ toString p.line ++ String.ofList columnMark ++ toString p.column

/-- Writes the position at the end of a message in plain numbers, and leaves out one that is no
place. -/
def normalize (message : String) : String :=
  match splitLast? lineMark message.toList with
  | none => message
  | some (before, behind) =>
    match read? behind with
    | none => message
    | some p => String.ofList before ++ p.text

end Position

end RelationQuery
