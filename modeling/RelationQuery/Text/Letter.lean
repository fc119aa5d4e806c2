import RelationQuery.Text.Table.Alphanumeric
import RelationQuery.Text.Table.Lowercase
import RelationQuery.Text.Table.Uppercase
import RelationQuery.Text.Table.CaseMap

/-!
The classes and case maps of characters that names are normalized by. ASCII is decided by the
character's own range; all other characters are looked up in the Unicode tables.
-/

namespace RelationQuery.Text

/-- A letter, digit or other number: the characters that words are made of. -/
def isWordChar (c : Char) : Bool :=
  if c.toNat < 0x80 then c.isAlphanum else Table.alphanumeric.any (·.contains c.toNat)

def isLower (c : Char) : Bool :=
  if c.toNat < 0x80 then c.isLower else Table.lowercase.any (·.contains c.toNat)

def isUpper (c : Char) : Bool :=
  if c.toNat < 0x80 then c.isUpper else Table.uppercase.any (·.contains c.toNat)

/-- The image of a character past ASCII: its expansion, else its shift, else itself. -/
def caseImage (expansions : List (Nat × List Nat)) (shifts : List (Stride × Int)) (c : Char) :
    List Char :=
  match expansions.lookup c.toNat with
  | some image => image.map Char.ofNat
  | none => [((Stride.shift shifts c.toNat).map Char.ofNat).getD c]

/-- The lower-case image of one character, regardless of its neighbours. -/
def lowerImage (c : Char) : List Char :=
  if c.toNat < 0x80 then [c.toLower] else caseImage Table.lowerExpansions Table.lowerShifts c

/-- The upper-case image of one character; `ß` becomes `SS`. -/
def upperImage (c : Char) : List Char :=
  if c.toNat < 0x80 then [c.toUpper] else caseImage Table.upperExpansions Table.upperShifts c

/-- A word in lower case. A final `Σ` takes its final form `ς`. -/
def lowerWord : List Char → List Char
  | [] => []
  | [c] => if c = 'Σ' then ['ς'] else lowerImage c
  | c :: d :: rest => lowerImage c ++ lowerWord (d :: rest)

/-- A word with its first character in upper case and the rest in lower case. -/
def capitalWord : List Char → List Char
  | [] => []
  | c :: rest => upperImage c ++ lowerWord rest

end RelationQuery.Text
