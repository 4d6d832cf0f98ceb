import SchemaForms.Decimal.Shortest

/-!
# Decimal/Layout — how the digits of a number are written

A layout says which exponents are written positionally, whether an integral value keeps a
fractional zero, and how a written exponent looks.  The three formats of this library are three
values of one record: `Layout.json`, `Layout.yaml` and `Layout.plain`.
-/

namespace SchemaForms.Decimal

/-- The character of a digit below ten. -/
def digitChar (d : Nat) : Char := Char.ofNat (48 + d)

/-- A natural number in decimal notation. -/
def natText (n : Nat) : List Char := (digitsOf n).map digitChar

/-- An integer in decimal notation. -/
def intText (n : Int) : List Char :=
  if n < 0 then '-' :: natText n.natAbs else natText n.natAbs

/-- The decisions of a format about doubles. -/
structure Layout where
  /-- Which of two equally near digit strings is written. -/
  tie : Tie
  /-- Decimal exponents written without an exponent part; everything, if absent. -/
  positional : Option (Int × Int)
  /-- Whether an integral value is written with a fractional zero. -/
  keepsFraction : Bool
  /-- Whether a positive exponent has a plus sign. -/
  plusExponent : Bool

/-- The layout of numbers in JSON text. -/
def Layout.json : Layout := ⟨.toEven, some (-5, 15), true, true⟩

/-- The layout of numbers in YAML text. -/
def Layout.yaml : Layout := ⟨.toEven, some (-5, 15), true, false⟩

/-- The layout for people: never an exponent, and no fraction unless there is one. -/
def Layout.plain : Layout := ⟨.up, none, false, false⟩

/-- Digits placed around the point: `point` of them come before it. -/
def placePoint (keepsFraction : Bool) (digits : List Char) (point : Int) : List Char :=
  if point ≤ 0 then '0' :: '.' :: (List.replicate (-point).toNat '0' ++ digits)
  else
    let whole := point.toNat
    if digits.length ≤ whole then
      digits ++ List.replicate (whole - digits.length) '0' ++ (if keepsFraction then ['.', '0'] else [])
    else digits.take whole ++ '.' :: digits.drop whole

/-- Digits with an exponent part: one digit before the point. -/
def placeExponent (plus : Bool) (digits : List Char) (exponent : Int) : List Char :=
  let mantissa := match digits with
    | [] => []
    | [d] => [d]
    | d :: rest => d :: '.' :: rest
  mantissa ++ 'e' :: ((if plus && decide (0 ≤ exponent) then ['+'] else []) ++ intText exponent)

/-- The text of a finite positive or zero magnitude. -/
def Layout.magnitudeText (layout : Layout) (magnitude : Nat) : List Char :=
  if magnitude = 0 then if layout.keepsFraction then ['0', '.', '0'] else ['0']
  else
    let (d, k) := shortest magnitude layout.tie
    let digits := natText d
    let exponent := k + digits.length - 1
    let positional := match layout.positional with
      | none => true
      | some (low, high) => decide (low ≤ exponent ∧ exponent ≤ high)
    if positional then placePoint layout.keepsFraction digits (exponent + 1)
    else placeExponent layout.plusExponent digits exponent

/-- The text of a finite double. -/
def Layout.text (layout : Layout) (bits : UInt64) : List Char :=
  let body := layout.magnitudeText (Binary64.magnitude bits)
  if Binary64.isNegative bits then '-' :: body else body

end SchemaForms.Decimal
