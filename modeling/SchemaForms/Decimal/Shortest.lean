import SchemaForms.Decimal.Binary64

/-!
# Decimal/Shortest — the fewest digits that read back

A finite magnitude owns the interval of reals that round to it, ends included exactly when its
significand is even.  `shortest` looks for one, two, … digits until a point of the decimal grid lies
in that interval; of two such points it takes the nearer, and an exact tie is settled by the caller.
-/

namespace SchemaForms.Decimal

/-- Which of two equally near digit strings is taken. -/
inductive Tie where
  | toEven
  | up
  deriving DecidableEq

/-- The digits of a natural number, most significant first, as values below ten. -/
def digitsOf (n : Nat) : List Nat :=
  if n < 10 then [n] else digitsOf (n / 10) ++ [n % 10]
termination_by n
decreasing_by omega

/-- How many decimal digits a natural number has. -/
def digitCount (n : Nat) : Nat := (digitsOf n).length

/-- The largest `t` with `10^t ≤ num / den`, for a positive fraction. -/
def leadingExponent (num den : Nat) : Int :=
  if den ≤ num then (digitCount (num / den) : Int) - 1
  else -(digitCount ((den - 1) / num) : Int)

/-- The interval that rounds to a magnitude, over a common denominator: lower end, value, upper end,
denominator, and whether the ends belong to it. -/
structure Interval where
  low : Nat
  value : Nat
  high : Nat
  den : Nat
  closed : Bool

/-- The interval of a finite positive magnitude.  Below a power of two the gap is half as wide. -/
def Interval.ofMagnitude (magnitude : Nat) : Interval :=
  let (m, e) := Binary64.decode magnitude
  let below := if m = Binary64.hiddenBit ∧ -1074 < e then 1 else 2
  let (unit, den) := Binary64.scale 1 (e - 2)
  ⟨(4 * m - below) * unit, 4 * m * unit, (4 * m + 2) * unit, den, m % 2 = 0⟩

/-- Whether `num / den` lies in the interval, where `num` is over the interval's denominator. -/
def Interval.contains (i : Interval) (num : Nat) : Bool :=
  if i.closed then decide (i.low ≤ num ∧ num ≤ i.high) else decide (i.low < num ∧ num < i.high)

/-- The point of the grid `10^exponent · ℕ` that stands for the value, if one lies in the interval:
of the value's two neighbours the one inside, of two inside the nearer. -/
def Interval.gridPoint? (i : Interval) (exponent : Int) (tie : Tie) : Option Nat :=
  -- scale everything so that the grid step is `step` over the denominator `den * grow`
  let (grow, step) := if 0 ≤ exponent then (1, i.den * Nat.pow 10 exponent.toNat)
    else (Nat.pow 10 (-exponent).toNat, i.den)
  let scaled : Interval := ⟨i.low * grow, i.value * grow, i.high * grow, i.den, i.closed⟩
  let lower := scaled.value / step
  let upper := lower + 1
  let lowerIn := scaled.contains (lower * step) && decide (0 < lower)
  let upperIn := scaled.contains (upper * step)
  if lowerIn && upperIn then
    let down := scaled.value - lower * step
    let up := upper * step - scaled.value
    if down < up then some lower
    else if up < down then some upper
    else match tie with
      | .toEven => some (if lower % 2 = 0 then lower else upper)
      | .up => some upper
  else if lowerIn then some lower
  else if upperIn then some upper
  else none

/-- The first grid with a point in the interval, trying `fuel` more digit counts. -/
def shortestFrom (i : Interval) (tie : Tie) (exponent : Int) : Nat → Nat × Int
  | 0 => (i.value / i.den, 0)
  | fuel + 1 =>
    match i.gridPoint? exponent tie with
    | some digits => (digits, exponent)
    | none => shortestFrom i tie (exponent - 1) fuel

/-- Strips zeros from the end of the digits, moving them into the exponent. -/
def stripZeros (digits : Nat) (exponent : Int) : Nat × Int :=
  if digits = 0 then (0, 0)
  else if digits % 10 = 0 then stripZeros (digits / 10) (exponent + 1)
  else (digits, exponent)
termination_by digits
decreasing_by omega

/-- The shortest decimal `(d, k)`, meaning `d · 10^k`, that reads back as the finite positive
magnitude.  Seventeen digits always suffice. -/
def shortest (magnitude : Nat) (tie : Tie) : Nat × Int :=
  let i := Interval.ofMagnitude magnitude
  let (digits, exponent) := shortestFrom i tie (leadingExponent i.value i.den) 18
  stripZeros digits exponent

end SchemaForms.Decimal
