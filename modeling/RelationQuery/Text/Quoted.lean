/-!
Quoting by doubling: a text between two quote characters, with each quote character inside
written twice.
-/

namespace RelationQuery.Text

/-- The text with each `mark` written twice. -/
def double (mark : Char) : List Char → List Char
  | [] => []
  | c :: rest => if c = mark then c :: c :: double mark rest else c :: double mark rest

theorem double_append (mark : Char) (first second : List Char) :
    double mark (first ++ second) = double mark first ++ double mark second := by
  induction first with
  | nil => rfl
  | cons c rest ih => by_cases h : c = mark <;> simp [double, h, ih]

/-- The text between two marks. -/
def enclose (mark : Char) (text : List Char) : List Char := mark :: double mark text ++ [mark]

def quote (mark : Char) (text : String) : String := String.ofList (enclose mark text.toList)

end RelationQuery.Text
