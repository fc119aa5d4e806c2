import RelationQuery.Number.Power

/-!
Double-precision numbers as their 64 bits: sign, 11 bits of exponent, 52 of fraction. A finite
number is `significand · 2 ^ exponent`, exactly; a ratio of naturals is rounded to the nearest
double, a tie to the even significand.
-/

namespace RelationQuery

/-- A double-precision number, bit for bit: the two zeros and all NaNs are told apart. -/
structure Binary64 where
  bits : UInt64
  deriving DecidableEq, Repr, Inhabited

namespace Binary64

def isNegative (x : Binary64) : Bool := twoTo 63 ≤ x.bits.toNat

def exponentField (x : Binary64) : Nat := x.bits.toNat / twoTo 52 % twoTo 11

def fraction (x : Binary64) : Nat := x.bits.toNat % twoTo 52

def isFinite (x : Binary64) : Bool := x.exponentField < 2047

def isNaN (x : Binary64) : Bool := !x.isFinite && x.fraction != 0

def isInfinite (x : Binary64) : Bool := !x.isFinite && x.fraction == 0

/-- The integer that a finite number scales by a power of two. -/
def significand (x : Binary64) : Nat :=
  if x.exponentField = 0 then x.fraction else twoTo 52 + x.fraction

/-- The power of two of a finite number. -/
def exponent (x : Binary64) : Int := (max x.exponentField 1 : Nat) - 1075

def zero : Binary64 := ⟨0⟩

def infinity : Binary64 := ⟨0x7FF0000000000000⟩

def isZero (x : Binary64) : Bool := x.exponentField = 0 && x.fraction = 0

/-- The number with its sign turned. -/
def neg (x : Binary64) : Binary64 := ⟨x.bits ^^^ 0x8000000000000000⟩

/-- `num / den` rounded to a natural, a tie to the even one. -/
def roundDiv (num den : Nat) : Nat :=
  let quotient := num / den
  let twice := 2 * (num % den)
  if twice < den then quotient else if den < twice then quotient + 1 else quotient + quotient % 2

/-- The power of two of the double nearest to `num / den`: the one that leaves 53 bits before the
point, but no less than that of the subnormal numbers. -/
def scaleOf (num den : Nat) : Int :=
  let estimate : Int := (num.log2 : Int) - den.log2
  let below : Bool := num * twoTo (-estimate).toNat < den * twoTo estimate.toNat
  max (if below then estimate - 53 else estimate - 52) (-1074)

/-- The double nearest to `num / den`, infinity from half a unit above the greatest finite one. A
rounded significand of 53 bits or more carries into the exponent field by itself. -/
def nearest (num den : Nat) : Binary64 :=
  if num = 0 then zero
  else
    let scale := scaleOf num den
    let rounded := roundDiv (num * twoTo (-scale).toNat) (den * twoTo scale.toNat)
    ⟨UInt64.ofNat (min ((scale + 1074).toNat * twoTo 52 + rounded) infinity.bits.toNat)⟩

/-- The double nearest to an integer. -/
def ofInt (n : Int) : Binary64 :=
  if n < 0 then neg (nearest n.natAbs 1) else nearest n.natAbs 1

/-- The magnitude of a finite number as a ratio of naturals. -/
def ratio (x : Binary64) : Nat × Nat :=
  (x.significand * twoTo x.exponent.toNat, twoTo (-x.exponent).toNat)

/-- The rounded product of the magnitudes of two finite numbers. -/
def mul (x y : Binary64) : Binary64 := nearest (x.ratio.1 * y.ratio.1) (x.ratio.2 * y.ratio.2)

/-- The rounded quotient of the magnitudes of two finite numbers. -/
def div (x y : Binary64) : Binary64 := nearest (x.ratio.1 * y.ratio.2) (x.ratio.2 * y.ratio.1)

/-- A single-precision number, widened without loss. A NaN keeps its payload and becomes quiet. -/
def ofBinary32 (single : UInt32) : Binary64 :=
  let n := single.toNat
  let sign := n / twoTo 31 * twoTo 63
  let field := n / twoTo 23 % twoTo 8
  let fraction := n % twoTo 23
  if field = 255 then
    let payload := if fraction = 0 then 0 else (fraction * twoTo 29) ||| twoTo 51
    ⟨UInt64.ofNat (sign + infinity.bits.toNat + payload)⟩
  else
    let significand := if field = 0 then fraction else twoTo 23 + fraction
    let magnitude := nearest (significand * twoTo (max field 1 - 1)) (twoTo 149)
    ⟨UInt64.ofNat (sign + magnitude.bits.toNat)⟩

end Binary64

end RelationQuery
