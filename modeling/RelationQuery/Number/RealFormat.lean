import RelationQuery.Number.Shortest

/-!
How a double is written. The digits are the shortest that read back; a format says from which
to which size they are written positionally, always with a fraction, and how the exponent is
written outside.
-/

namespace RelationQuery

structure RealFormat where
  /-- the least exponent of the first digit that is written positionally -/
  least : Int
  /-- the least exponent above, from which on an exponent is written again -/
  bound : Int
  /-- whether a positive exponent has a sign -/
  plus : Bool
  tie : Binary64.Tie

namespace RealFormat

/-- The digits of a natural without its trailing zeros, at least one. -/
def significant (n : Nat) : List Char :=
  match ((Nat.toDigits 10 n).reverse.dropWhile (· = '0')).reverse with
  | [] => ['0']
  | digits => digits

/-- Digits with the point after the one of exponent zero; `exponent` is that of the first. -/
def positional (digits : List Char) (exponent : Int) : List Char :=
  if exponent < 0 then
    '0' :: '.' :: List.replicate (-exponent - 1).toNat '0' ++ digits
  else
    let whole := exponent.toNat + 1
    let fraction := if digits.length ≤ whole then ['0'] else digits.drop whole
    digits.take whole ++ List.replicate (whole - digits.length) '0' ++ '.' :: fraction

/-- One digit before the point, and the exponent. -/
def scientific (f : RealFormat) (digits : List Char) (exponent : Int) : List Char :=
  let fraction := match digits.tail with
    | [] => []
    | rest => '.' :: rest
  let sign := if exponent < 0 then ['-'] else if f.plus then ['+'] else []
  digits.take 1 ++ fraction ++ 'e' :: sign ++ Nat.toDigits 10 exponent.natAbs

/-- The magnitude of a finite double. -/
def magnitude (f : RealFormat) (x : Binary64) : List Char :=
  if x.isZero then ['0', '.', '0']
  else
    let (number, power) := x.shortest f.tie
    let exponent := power + ((Nat.toDigits 10 number).length - 1 : Nat)
    if f.least ≤ exponent && exponent < f.bound then positional (significant number) exponent
    else f.scientific (significant number) exponent

/-- A finite double; the zero with a sign keeps it. -/
def write (f : RealFormat) (x : Binary64) : List Char :=
  if x.isNegative then '-' :: f.magnitude x else f.magnitude x

end RealFormat

end RelationQuery
