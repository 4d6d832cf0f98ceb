import SchemaForms.Json.Fault
import SchemaForms.Text.Numeral
import SchemaForms.Value.Basic

/-!
# Json/Literal — reading the strings and numbers of JSON text

Strings are read character by character; an escape is decoded where it begins and the characters it
took are then skipped, so the reader is a structural recursion.

A number without point and exponent is an integer when it fits 64 bits.  Every other number is a
double, computed from at most nineteen or twenty leading digits by one multiplication or division by
a power of ten (`scaleDouble`), which may differ from the nearest double in the last place.
-/

namespace SchemaForms.Json

/-! ## Strings -/

/-- The code unit written by four hexadecimal digits. -/
def codeUnit? : List Char → Option Nat
  | a :: b :: c :: d :: _ => Numeral.natural? 16 [a, b, c, d]
  | _ => none

/-- The code unit at the start of `rest`, or the failure of reading it: fewer than four bytes are
the end of the text, and a wrong digit is reported behind all four bytes. -/
def readCodeUnit (rest : List Char) : Except Failure Nat :=
  if byteCount (rest.take 4) < 4 then .error ⟨.endInString, 0⟩
  else match codeUnit? rest with
    | some unit => .ok unit
    | none => .error (.ahead .invalidEscape rest 4)

/-- Decodes what follows `\u`: the character and how many characters it took.  A high surrogate
must be followed by the escape of a low one. -/
def readUnicodeEscape (rest : List Char) : Except Failure (Char × Nat) := do
  let unit ← readCodeUnit rest
  let rest := rest.drop 4
  if 0xDC00 ≤ unit ∧ unit ≤ 0xDFFF then .error (.at .loneSurrogate rest)
  else if unit < 0xD800 ∨ 0xDBFF < unit then .ok (Char.ofNat unit, 4)
  else match rest with
    | [] => .error ⟨.endInString, 0⟩
    | '\\' :: [] => .error ⟨.endInString, 0⟩
    | '\\' :: 'u' :: rest =>
      let low ← readCodeUnit rest
      if low < 0xDC00 ∨ 0xDFFF < low then .error (.at .loneSurrogate (rest.drop 4))
      else .ok (Char.ofNat ((unit - 0xD800) * 0x400 + (low - 0xDC00) + 0x10000), 10)
    | '\\' :: rest => .error (.ahead .unfinishedEscape rest 1)
    | rest => .error (.ahead .unfinishedEscape rest 1)

/-- Decodes what follows a backslash: the character and how many characters it took. -/
def readEscape : List Char → Except Failure (Char × Nat)
  | [] => .error ⟨.endInString, 0⟩
  | '"' :: _ => .ok ('"', 1)
  | '\\' :: _ => .ok ('\\', 1)
  | '/' :: _ => .ok ('/', 1)
  | 'b' :: _ => .ok ('\x08', 1)
  | 'f' :: _ => .ok ('\x0c', 1)
  | 'n' :: _ => .ok ('\n', 1)
  | 'r' :: _ => .ok ('\r', 1)
  | 't' :: _ => .ok ('\t', 1)
  | 'u' :: rest => (readUnicodeEscape rest).map fun (c, used) => (c, used + 1)
  | rest => .error (.ahead .invalidEscape rest 1)

/-- Puts a character in front of the text read so far. -/
def prepend (c : Char) (result : List Char × List Char) : List Char × List Char :=
  (c :: result.1, result.2)

/-- The text up to the closing quote, and what follows the quote.  The first `skip` characters
belong to an escape that is decoded already. -/
def readString (skip : Nat) : List Char → Except Failure (List Char × List Char)
  | [] => .error ⟨.endInString, 0⟩
  | c :: rest =>
    match skip with
    | skip + 1 => readString skip rest
    | 0 =>
      if c = '"' then .ok ([], rest)
      else if c = '\\' then
        match readEscape rest with
        | .error failure => .error failure
        | .ok (decoded, used) => (readString used rest).map (prepend decoded)
      else if c.toNat < 0x20 then .error (.at .controlCharacter rest)
      else (readString 0 rest).map (prepend c)

/-! ## Numbers -/

/-- Takes digits into a significand while it fits 64 bits: the significand, and the digits left. -/
def absorb (significand : Nat) : List Char → Nat × List Char
  | [] => (significand, [])
  | c :: rest =>
    let next := significand * 10 + (Numeral.digit? 10 c).getD 0
    if Numeral.fitsUnsigned next then absorb next rest else (significand, c :: rest)

/-- A magnitude times `10^exponent`, by one operation on doubles for exponents up to 308 in size.
Larger negative exponents are taken in steps of 308, until the magnitude is gone. -/
def scaleDouble (magnitude : Nat) (exponent : Int) : Nat → Option Nat
  | 0 => some 0
  | steps + 1 =>
    if exponent.natAbs ≤ 308 then
      if 0 ≤ exponent then
        (some (Binary64.mul magnitude (Binary64.ofDecimal 1 exponent))).filter (· < Binary64.infinity)
      else some (Binary64.div magnitude (Binary64.ofDecimal 1 (-exponent)))
    else if magnitude = 0 then some 0
    else if 0 ≤ exponent then none
    else scaleDouble (Binary64.div magnitude (Binary64.ofDecimal 1 308)) (exponent + 308) steps

/-- The double of a significand and an exponent; the text behind the literal locates a failure. -/
def doubleOf (negative : Bool) (significand : Nat) (exponent : Int) (rest : List Char) :
    Except Failure (Number × List Char) :=
  match scaleDouble (Binary64.ofNat significand) exponent 4 with
  | some magnitude => .ok (.float (Binary64.withSign negative magnitude), rest)
  | none => .error (.at .numberOutOfRange rest)

/-- The number of signed 32-bit words that are not negative; exponents are below it. -/
def exponentBound : Nat := 0x80000000

/-- Reads the digits of an exponent: its size and the rest, or the rest at the digit that made it
exceed 32 bits. -/
def readExponent (acc : Nat) : List Char → Except (List Char) (Nat × List Char)
  | [] => .ok (acc, [])
  | c :: rest =>
    match Numeral.digit? 10 c with
    | some d =>
      if exponentBound ≤ acc * 10 + d then .error rest else readExponent (acc * 10 + d) rest
    | none => .ok (acc, c :: rest)

/-- Finishes a number after the letter of its exponent. -/
def finishExponent (negative : Bool) (significand : Nat) (start : Int) (rest : List Char) :
    Except Failure (Number × List Char) :=
  let (down, digits) := match rest with
    | '+' :: rest => (false, rest)
    | '-' :: rest => (true, rest)
    | _ => (false, rest)
  match digits with
  | [] => .error ⟨.endInValue, 0⟩
  | c :: _ =>
    if !Numeral.isDigit c then .error (.ahead .invalidNumber digits 1)
    else match readExponent 0 digits with
      | .ok (size, rest) =>
        doubleOf negative significand (if down then start - size else start + size) rest
      | .error rest =>
        if significand ≠ 0 ∧ !down then .error (.at .numberOutOfRange rest)
        else .ok (.float (Binary64.withSign negative 0), rest.dropWhile Numeral.isDigit)

/-- Finishes a number after its point. -/
def finishFraction (negative : Bool) (significand : Nat) (start : Int) (rest : List Char) :
    Except Failure (Number × List Char) :=
  let digits := rest.takeWhile Numeral.isDigit
  let rest' := rest.dropWhile Numeral.isDigit
  if digits.isEmpty then
    if rest.isEmpty then .error ⟨.endInValue, 0⟩ else .error (.ahead .invalidNumber rest 1)
  else
    let (significand, left) := absorb significand digits
    let exponent := start - (digits.length - left.length : Nat)
    match rest' with
    | 'e' :: rest | 'E' :: rest => finishExponent negative significand exponent rest
    | _ => doubleOf negative significand exponent rest'

/-- An integer literal: a double when it does not fit 64 bits, and for a negative zero. -/
def integerOf (negative : Bool) (n : Nat) : Number :=
  if negative then
    if n = 0 ∨ Numeral.signedBound < n then .float (Binary64.withSign true (Binary64.ofNat n))
    else .int (-(n : Int))
  else .int n

/-- Reads a number after its sign. -/
def readNumber (negative : Bool) (text : List Char) : Except Failure (Number × List Char) :=
  match text with
  | [] => .error ⟨.endInValue, 0⟩
  | c :: rest =>
    if !Numeral.isDigit c then .error (.ahead .invalidNumber text 1)
    else if c = '0' ∧ (rest.head?.map Numeral.isDigit).getD false then
      .error (.ahead .invalidNumber rest 1)
    else
      let (significand, left) := absorb 0 (text.takeWhile Numeral.isDigit)
      let exponent : Int := left.length
      match text.dropWhile Numeral.isDigit with
      | '.' :: rest => finishFraction negative significand exponent rest
      | 'e' :: rest | 'E' :: rest => finishExponent negative significand exponent rest
      | rest =>
        if left.isEmpty then .ok (integerOf negative significand, rest)
        else doubleOf negative significand exponent rest

end SchemaForms.Json
