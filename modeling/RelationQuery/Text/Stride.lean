/-!
Sets of code points as strides: the code points `first`, `first + step`, … up to `last`. A
stride of step 1 is a range; one of step 2 fits the blocks where capital and small letters take
turns.
-/

namespace RelationQuery.Text

structure Stride where
  first : Nat
  last : Nat
  step : Nat

def Stride.contains (s : Stride) (n : Nat) : Bool :=
  s.first ≤ n && n ≤ s.last && (n - s.first) % s.step == 0

/-- The image of a code point under the first stride that holds it. -/
def Stride.shift (table : List (Stride × Int)) (n : Nat) : Option Nat :=
  (table.find? fun entry => entry.1.contains n).map fun entry => ((n : Int) + entry.2).toNat

end RelationQuery.Text
