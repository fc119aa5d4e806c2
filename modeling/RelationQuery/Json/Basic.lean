import RelationQuery.Members
import RelationQuery.Number.Binary64

/-!
JSON values. The members of an object have distinct keys in ascending order; whoever builds an
object keeps it so.
-/

namespace RelationQuery

inductive Json where
  | null
  | bool (value : Bool)
  /-- a number written without fraction and exponent -/
  | integer (value : Int)
  /-- any other number; finite -/
  | real (value : Binary64)
  | text (value : String)
  | array (items : List Json)
  | object (members : List (String × Json))
  deriving Inhabited

namespace Json

/-- Neither an array nor an object. -/
def isScalar : Json → Bool
  | .array _ | .object _ => false
  | _ => true

/-- An object from pairs in any order; of equal keys the last counts. -/
def ofPairs (pairs : List (String × Json)) : Json := .object (Members.ofList pairs)

end Json

end RelationQuery
