import RelationQuery.Number.Binary64

/-!
The shortest decimal of a double: the fewest digits that round to it, and among the decimals of
that many digits the one nearest to it.

The doubles' rounding intervals decide. A positive double `m · 2 ^ q` is read back from every
decimal less than half a step away, and from the ends of that interval too when `m` is even. For
each count of digits only the two neighbours of the double on the grid of that count can be the
nearest decimal, and if any decimal of the grid lies in the interval, so does one of these two.
-/

namespace RelationQuery.Binary64

/-- Which of two equally near decimals is taken. -/
inductive Tie where
  | toEven
  | up
  deriving DecidableEq, Repr

/-- The rounding interval of a double, in quarters of its unit `2 ^ q`. -/
structure Interval where
  low : Nat
  centre : Nat
  high : Nat
  /-- the power of two of a quarter unit -/
  power : Int
  /-- whether the ends read back too -/
  closed : Bool

/-- Below a power of two the doubles lie twice as close, so the lower half step is shorter. -/
def interval (x : Binary64) : Interval :=
  let m := x.significand
  let below := if x.fraction = 0 && 1 < x.exponentField then 1 else 2
  ⟨4 * m - below, 4 * m, 4 * m + 2, x.exponent - 2, m % 2 == 0⟩

/-- A grid of decimals: an interval's points, times `scale`, count units of `1 / unit` grid
steps. -/
structure Grid where
  scale : Nat
  unit : Nat

/-- The grid of the multiples of `10 ^ step`. -/
def Interval.grid (i : Interval) (step : Int) : Grid :=
  ⟨twoTo i.power.toNat * tenTo (-step).toNat, twoTo (-i.power).toNat * tenTo step.toNat⟩

/-- Whether the `k`-th multiple of the grid step reads back. -/
def Interval.holds (i : Interval) (g : Grid) (k : Nat) : Bool :=
  if i.closed then i.low * g.scale ≤ k * g.unit && k * g.unit ≤ i.high * g.scale
  else i.low * g.scale < k * g.unit && k * g.unit < i.high * g.scale

/-- The multiple of the grid step that reads back and is nearest to the centre. -/
def Interval.hit? (i : Interval) (tie : Tie) (g : Grid) : Option Nat :=
  let k := i.centre * g.scale / g.unit
  match i.holds g k, i.holds g (k + 1) with
  | false, false => none
  | true, false => some k
  | false, true => some (k + 1)
  | true, true =>
    let twice := 2 * (i.centre * g.scale % g.unit)
    if twice < g.unit then some k
    else if g.unit < twice then some (k + 1)
    else match tie with
      | .toEven => some (k + k % 2)
      | .up => some (k + 1)

/-- The decimal exponent of the first digit of the centre. -/
def Interval.magnitude (i : Interval) : Int :=
  let estimate := ((i.centre.log2 : Int) + i.power) * 30103 / 100000
  let g := i.grid (estimate + 1)
  if g.unit ≤ i.centre * g.scale then estimate + 1 else estimate

/-- Tries the grids of `count` and more digits, `fuel` of them. -/
def Interval.search (i : Interval) (tie : Tie) (magnitude : Int) : Nat → Nat → Nat × Int
  | 0, _ => (i.centre, 0)
  | fuel + 1, count =>
    let step := magnitude - (count - 1 : Nat)
    match i.hit? tie (i.grid step) with
    | some k => (k, step)
    | none => i.search tie magnitude fuel (count + 1)

/-- A decimal `digits · 10 ^ power`; seventeen digits always suffice. -/
def shortest (tie : Tie) (x : Binary64) : Nat × Int :=
  x.interval.search tie x.interval.magnitude 17 1

end RelationQuery.Binary64
