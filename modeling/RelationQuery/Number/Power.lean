/-!
The powers of the two bases that numbers are written in here.
-/

namespace RelationQuery

/-- The powers of two. -/
abbrev twoTo (n : Nat) : Nat := Nat.pow 2 n

/-- The powers of ten. -/
abbrev tenTo (n : Nat) : Nat := Nat.pow 10 n

end RelationQuery
