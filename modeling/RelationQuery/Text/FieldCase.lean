import RelationQuery.Text.Words

/-!
The two conventions for the keys of records: `created_at` and `createdAt`.
-/

namespace RelationQuery

namespace Text

/-- The words in lower case, joined by underscores. -/
def snakeChars (identifier : List Char) : List Char :=
  List.intercalate ['_'] ((words identifier).map lowerWord)

/-- The first word in lower case, the others capitalized, nothing between them. -/
def camelChars (identifier : List Char) : List Char :=
  match words identifier with
  | [] => []
  | word :: rest => lowerWord word ++ rest.flatMap capitalWord

def snake (identifier : String) : String := String.ofList (snakeChars identifier.toList)

def camel (identifier : String) : String := String.ofList (camelChars identifier.toList)

end Text

/-- How an entity spells the keys of its records. -/
inductive FieldCase where
  /-- `created_at` -/
  | snake
  /-- `createdAt` -/
  | camel
  deriving DecidableEq, Repr, Inhabited

/-- Spells a bare identifier in this convention. -/
def FieldCase.apply : FieldCase → String → String
  | .snake => Text.snake
  | .camel => Text.camel

end RelationQuery
