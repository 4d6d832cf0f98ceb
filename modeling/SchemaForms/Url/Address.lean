import SchemaForms.Decimal.Layout
import SchemaForms.Text.Numeral

/-!
# Url/Address — numeric hosts

An address of 32 bits is written in one to four parts, each decimal, octal or hexadecimal; the last
part fills the bytes that are left.  An address of 128 bits is written in eight groups of hexadecimal
digits, of which one run of zeros may be left out.  Both have one canonical text.
-/

namespace SchemaForms.Address

/-! ## Thirty-two bits -/

/-- Digits after a mark of their radix; none are zero. -/
def markedNumber? (radix : Nat) : List Char → Option Nat
  | [] => some 0
  | digits => Numeral.natural? radix digits

/-- A part: hexadecimal after `0x`, octal after a zero, else decimal. -/
def part? : List Char → Option Nat
  | '0' :: c :: rest =>
    if c = 'x' ∨ c = 'X' then markedNumber? 16 rest else markedNumber? 8 (c :: rest)
  | text => Numeral.natural? 10 text

/-- The parts of a host, without an empty last one. -/
def hostParts (host : List Char) : List (List Char) :=
  let parts := host.splitOn '.'
  if 1 < parts.length ∧ parts.getLast? = some [] then parts.dropLast else parts

/-- Whether a host is meant as an address of 32 bits: its last part is a number. -/
def isNumeric (host : List Char) : Bool :=
  match (hostParts host).getLast? with
  | some last => !last.isEmpty && (last.all Numeral.isDigit || (part? last).isSome)
  | none => false

/-- The address that numbers denote: all but the last are bytes, and the last fills the rest. -/
def shortOfNumbers? (numbers : List Nat) : Option Nat :=
  let others := numbers.dropLast
  match numbers.getLast? with
  | none => none
  | some last =>
    if 4 < numbers.length ∨ others.any (255 < ·) ∨ 1 <<< (8 * (4 - others.length)) ≤ last then none
    else some (last + (others.foldl (fun n part => 256 * n + part) 0) <<< (8 * (4 - others.length)))

/-- The address of 32 bits that a host denotes. -/
def short? (host : List Char) : Option Nat := ((hostParts host).mapM part?).bind shortOfNumbers?

/-- The canonical text of an address of 32 bits. -/
def shortText (address : Nat) : List Char :=
  ['.'].intercalate ([3, 2, 1, 0].map fun i => Decimal.natText ((address >>> (8 * i)) % 256))

/-! ## A hundred and twenty-eight bits -/

/-- A group of one to four hexadecimal digits. -/
def group? (text : List Char) : Option Nat :=
  if text.length ≤ 4 then Numeral.natural? 16 text else none

/-- A byte in decimal without leading zeros. -/
def byte? (text : List Char) : Option Nat :=
  match text with
  | '0' :: _ :: _ => none
  | _ => (Numeral.natural? 10 text).filter (· < 256)

/-- The two groups that four decimal bytes stand for. -/
def dotted? (text : List Char) : Option (List Nat) :=
  match (text.splitOn '.').mapM byte? with
  | some [a, b, c, d] => some [256 * a + b, 256 * c + d]
  | _ => none

/-- Groups with colons between them; the last may be four decimal bytes. -/
def groupList? : List (List Char) → Option (List Nat)
  | [] => some []
  | [last] => if last.contains '.' then dotted? last else (group? last).map fun g => [g]
  | text :: rest => do
    let g ← group? text
    let groups ← groupList? rest
    some (g :: groups)

/-- Groups on one side of a gap; there may be none. -/
def side? (text : List Char) : Option (List Nat) :=
  if text.isEmpty then some [] else groupList? (text.splitOn ':')

/-- The text before and after the first gap. -/
def splitGap : List Char → Option (List Char × List Char)
  | ':' :: ':' :: rest => some ([], rest)
  | c :: rest => (splitGap rest).map fun (before, after) => (c :: before, after)
  | [] => none

/-- The eight groups of an address of 128 bits; a gap stands for at least one zero. -/
def long? (text : List Char) : Option (List Nat) :=
  match splitGap text with
  | none => (groupList? (text.splitOn ':')).filter fun groups => groups.length = 8
  | some (before, after) => do
    let left ← if before.contains '.' then none else side? before
    let right ← side? after
    if left.length + right.length ≤ 7 then
      some (left ++ List.replicate (8 - left.length - right.length) 0 ++ right)
    else none

/-- The number of zeros at the beginning. -/
def zeroRun (groups : List Nat) : Nat := (groups.takeWhile (· = 0)).length

/-- The first longest run of zeros, as its position and length. -/
def longestRun (groups : List Nat) : Nat × Nat :=
  ((List.range groups.length).map fun i => (i, zeroRun (groups.drop i))).foldl
    (fun best run => if best.2 < run.2 then run else best) (0, 0)

/-- Groups with colons between them. -/
def groupsText (groups : List Nat) : List Char := [':'].intercalate (groups.map (Nat.toDigits 16))

/-- The canonical text of an address of 128 bits: a gap stands for the first longest run of at least
two zeros. -/
def longText (groups : List Nat) : List Char :=
  let (start, length) := longestRun groups
  if length < 2 then groupsText groups
  else groupsText (groups.take start) ++ [':', ':'] ++ groupsText (groups.drop (start + length))

end SchemaForms.Address
