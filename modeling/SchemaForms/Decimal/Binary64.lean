/-!
# Decimal/Binary64 — doubles as exact rationals

A finite double is a sign and a magnitude, and the bit pattern of a magnitude counts the doubles
below it.  `Binary64.nearest` rounds a positive rational to the magnitude nearest to it, a tie going
to the even pattern; products, quotients and decimal literals are exact rationals rounded once.
All of it is arithmetic on natural numbers.
-/

namespace SchemaForms.Binary64

/-- The magnitude pattern of infinity; every smaller pattern is a finite magnitude. -/
def infinity : Nat := 0x7FF0000000000000

/-- The bit of the sign. -/
def signBit : Nat := 0x8000000000000000

/-- The number of fractions; the significand of a normal double is one of them and this bit. -/
def hiddenBit : Nat := 0x10000000000000

/-- `m · 2^e`, for a finite magnitude pattern, as the pair `(m, e)`. -/
def decode (magnitude : Nat) : Nat × Int :=
  let biased : Nat := magnitude / hiddenBit
  let fraction : Nat := magnitude % hiddenBit
  if biased = 0 then (fraction, -1074) else (fraction + hiddenBit, (biased : Int) - 1075)

/-- The fraction `m · 2^e`, as numerator and denominator. -/
def scale (m : Nat) (e : Int) : Nat × Nat :=
  if 0 ≤ e then (m <<< e.toNat, 1) else (m, 1 <<< (-e).toNat)

/-- A finite magnitude as numerator and denominator. -/
def toRatio (magnitude : Nat) : Nat × Nat :=
  let (m, e) := decode magnitude
  scale m e

/-- The quotient rounded to the nearest natural number, a tie to the even one. -/
def divNearestEven (num den : Nat) : Nat :=
  let q := num / den
  let r := num % den
  if 2 * r < den then q
  else if den < 2 * r then q + 1
  else if q % 2 = 0 then q else q + 1

/-- The exponent of the last place of the doubles around `num / den`: with 53 significant bits, and
never below that of the subnormals. -/
def lastPlace (num den : Nat) : Int :=
  let guess : Int := (num.log2 : Int) - (den.log2 : Int) - 52
  let (n, d) := if 0 ≤ guess then (num, den <<< guess.toNat) else (num <<< (-guess).toNat, den)
  let exact := if n < d * hiddenBit then guess - 1 else guess
  max exact (-1074)

/-- The magnitude nearest to `num / den`; beyond the largest double it is infinity. -/
def nearest (num den : Nat) : Nat :=
  if num = 0 then 0
  else
    let e := lastPlace num den
    let m := if 0 ≤ e then divNearestEven num (den <<< e.toNat)
      else divNearestEven (num <<< (-e).toNat) den
    min ((e + 1074).toNat * hiddenBit + m) infinity

/-- The magnitude nearest to a natural number. -/
def ofNat (n : Nat) : Nat := nearest n 1

/-- The product of two finite magnitudes, rounded. -/
def mul (a b : Nat) : Nat :=
  let (an, ad) := toRatio a
  let (bn, bd) := toRatio b
  nearest (an * bn) (ad * bd)

/-- The quotient of two finite magnitudes, rounded; the divisor is not zero. -/
def div (a b : Nat) : Nat :=
  let (an, ad) := toRatio a
  let (bn, bd) := toRatio b
  nearest (an * bd) (ad * bn)

/-- The magnitude nearest to `digits · 10^exponent`.  Exponents far outside the range of doubles
are answered without computing the power. -/
def ofDecimal (digits : Nat) (exponent : Int) : Nat :=
  if digits = 0 then 0
  else
    let top : Int := (digits.log2 : Int) + exponent * 3
    if 0 ≤ exponent then
      if exponent > 400 then infinity else nearest (digits * Nat.pow 10 exponent.toNat) 1
    else if top < -1200 then 0
    else nearest digits (Nat.pow 10 (-exponent).toNat)

/-- The bit pattern of a magnitude with a sign. -/
def withSign (negative : Bool) (magnitude : Nat) : UInt64 :=
  (if negative then signBit + magnitude else magnitude).toUInt64

/-- The sign of a bit pattern. -/
def isNegative (bits : UInt64) : Bool := decide (signBit ≤ bits.toNat)

/-- The magnitude pattern of a bit pattern. -/
def magnitude (bits : UInt64) : Nat := bits.toNat % signBit

end SchemaForms.Binary64
