import SchemaForms.Decimal.Binary64

/-!
# Text/Numeral — reading numbers from text

Readers for whole texts: digits in some radix, signed integers, indices, and decimal literals of
doubles.  A reader answers nothing unless the whole text is a numeral of its kind.
-/

namespace SchemaForms.Numeral

/-- The value of a digit in the given radix (at most sixteen); letters of either case count. -/
def digit? (radix : Nat) (c : Char) : Option Nat :=
  let n := c.toNat
  let value? :=
    if 0x30 ≤ n ∧ n ≤ 0x39 then some (n - 0x30)
    else if 0x41 ≤ n ∧ n ≤ 0x46 then some (n - 0x37)
    else if 0x61 ≤ n ∧ n ≤ 0x66 then some (n - 0x57)
    else none
  value?.filter (· < radix)

/-- Whether a character is a decimal digit. -/
def isDigit (c : Char) : Bool := (digit? 10 c).isSome

/-- Continues a numeral: `acc` is the value of the digits before. -/
def accumulate (radix : Nat) : List Char → Nat → Option Nat
  | [], acc => some acc
  | c :: rest, acc =>
    match digit? radix c with
    | some d => accumulate radix rest (acc * radix + d)
    | none => none

/-- A non-empty run of digits. -/
def natural? (radix : Nat) (text : List Char) : Option Nat :=
  match text with
  | [] => none
  | _ => accumulate radix text 0

/-- The value of a run of decimal digits, other characters counting as zero. -/
def digitsValue (digits : List Char) : Nat :=
  digits.foldl (fun acc c => acc * 10 + (digit? 10 c).getD 0) 0

/-- Digits with an optional sign, a lone sign being no numeral. -/
def signed? (radix : Nat) : List Char → Option Int
  | '+' :: rest => (natural? radix rest).map Int.ofNat
  | '-' :: rest => (natural? radix rest).map fun n => -Int.ofNat n
  | text => (natural? radix text).map Int.ofNat

/-- The number of signed 64-bit words that are not negative. -/
def signedBound : Nat := 0x8000000000000000

/-- The number of 64-bit words. -/
def unsignedBound : Nat := 0x10000000000000000

/-- Whether an integer fits a signed 64-bit word. -/
def fitsSigned (n : Int) : Bool := decide (-(signedBound : Int) ≤ n ∧ n < signedBound)

/-- Whether a natural number fits an unsigned 64-bit word. -/
def fitsUnsigned (n : Nat) : Bool := decide (n < unsignedBound)

/-- A signed 64-bit integer. -/
def integer? (text : List Char) : Option Int := (signed? 10 text).filter fitsSigned

/-- An index or a count: digits, with an optional plus sign, below `2^64`. -/
def index? : List Char → Option Nat
  | '+' :: rest => (natural? 10 rest).filter fitsUnsigned
  | text => (natural? 10 text).filter fitsUnsigned

/-! ## Doubles -/

/-- The exponent part of a decimal literal: absent, or `e`, an optional sign and digits. -/
def exponent? : List Char → Option Int
  | [] => some 0
  | c :: rest => if c = 'e' ∨ c = 'E' then signed? 10 rest else none

/-- The magnitude of an unsigned decimal literal; digits may miss on one side of the point only. -/
def magnitude? (text : List Char) : Option Nat :=
  let whole := text.takeWhile isDigit
  let afterWhole := text.dropWhile isDigit
  let (fraction, afterFraction) := match afterWhole with
    | '.' :: rest => (rest.takeWhile isDigit, rest.dropWhile isDigit)
    | _ => ([], afterWhole)
  if whole.isEmpty && fraction.isEmpty then none
  else (exponent? afterFraction).map fun e =>
    Binary64.ofDecimal (digitsValue (whole ++ fraction)) (e - fraction.length)

/-- The finite double nearest to a decimal literal with an optional sign. -/
def double? (text : List Char) : Option UInt64 :=
  let (negative, body) := match text with
    | '+' :: rest => (false, rest)
    | '-' :: rest => (true, rest)
    | _ => (false, text)
  ((magnitude? body).filter (· < Binary64.infinity)).map (Binary64.withSign negative)

end SchemaForms.Numeral
