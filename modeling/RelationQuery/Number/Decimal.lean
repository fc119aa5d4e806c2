import RelationQuery.Number.Binary64

/-!
Decimals read into doubles by scaling. The digits are gathered into a 64-bit significand as long
as they fit, the rest of them only counts towards the power of ten; the double nearest to the
significand is then multiplied or divided by the double nearest to the power. Two roundings
bring the answer within a unit in the last place of the nearest double, not always onto it.
-/

namespace RelationQuery

/-- A decimal as it is written: digits before and after the point, and the exponent. -/
structure DecimalText where
  negative : Bool
  whole : List Nat
  fraction : Option (List Nat)
  exponent : Option Int

/-- A significand and the power of ten that scales it. -/
structure Scaled where
  significand : Nat
  power : Int

namespace Scaled

/-- Whether one more digit still fits 64 bits. -/
def fits (s : Scaled) (digit : Nat) : Bool := s.significand * 10 + digit < twoTo 64

/-- Appends the digits before the point; from the first that does not fit on, each is a power. -/
def whole (s : Scaled) : List Nat → Scaled
  | [] => s
  | digit :: rest =>
    if s.fits digit then whole { s with significand := s.significand * 10 + digit } rest
    else { s with power := s.power + (rest.length + 1 : Nat) }

/-- Appends the digits after the point, up to the first that does not fit. -/
def fraction (s : Scaled) : List Nat → Scaled
  | [] => s
  | digit :: rest =>
    if s.fits digit then fraction ⟨s.significand * 10 + digit, s.power - 1⟩ rest else s

def ofText (text : DecimalText) : Scaled :=
  let s := fraction (whole ⟨0, 0⟩ text.whole) (text.fraction.getD [])
  { s with power := s.power + text.exponent.getD 0 }

/-- Divides by `10 ^ 308` until a power of at most 308 is left, or nothing. -/
def shrink : Nat → Binary64 → Nat → Binary64 × Nat
  | 0, x, power => (x, power)
  | fuel + 1, x, power =>
    if power ≤ 308 || x.isZero then (x, power)
    else shrink fuel (x.div (Binary64.nearest (tenTo 308) 1)) (power - 308)

/-- The magnitude, or nothing if it is too great for a double. -/
def magnitude? (s : Scaled) : Option Binary64 :=
  let x := Binary64.nearest s.significand 1
  if x.isZero then some x
  else if 0 ≤ s.power then
    if 308 < s.power then none
    else
      let product := x.mul (Binary64.nearest (tenTo s.power.toNat) 1)
      if product.isFinite then some product else none
  else
    let (y, power) := shrink 4 x (-s.power).toNat
    if y.isZero then some y else some (y.div (Binary64.nearest (tenTo power) 1))

end Scaled

/-- The double that a decimal is read as, or nothing if it is too great for one. -/
def DecimalText.toBinary64? (text : DecimalText) : Option Binary64 :=
  (Scaled.ofText text).magnitude?.map fun x => if text.negative then x.neg else x

end RelationQuery
