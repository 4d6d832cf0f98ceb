/-!
# Text/Basic — characters and what holds of them

Case within ASCII and white space, with which tags are compared and inputs are trimmed.  Sets and
mappings of characters are tables of code points: a look-up in a set stops at the first range that
begins behind the code point, and where characters at equal distances have images at the same
distances, one run says so for all of them.
-/

namespace SchemaForms.Text

/-! ## Case within ASCII -/

/-- The lower case of the letters A to Z; other characters stay. -/
def asciiLower (text : String) : String := String.ofList (text.toList.map Char.toLower)

/-- Equality up to the case of the letters A to Z. -/
def sameIgnoringCase (a b : String) : Bool := asciiLower a = asciiLower b

/-! ## White space -/

/-- Whether a character is white space. -/
def isBlank (c : Char) : Bool :=
  let n := c.toNat
  (decide (0x09 ≤ n) && decide (n ≤ 0x0D)) || n == 0x20 || n == 0x85 || n == 0xA0 || n == 0x1680 ||
    (decide (0x2000 ≤ n) && decide (n ≤ 0x200A)) || n == 0x2028 || n == 0x2029 || n == 0x202F ||
    n == 0x205F || n == 0x3000

/-- Drops blanks from the end. -/
def trimEnd (text : List Char) : List Char := (text.reverse.dropWhile isBlank).reverse

/-- Drops blanks from both ends. -/
def trim (text : List Char) : List Char := trimEnd (text.dropWhile isBlank)

/-! ## Sets of characters -/

/-- Ranges of code points, ends included, in ascending order. -/
abbrev Ranges := List (Nat × Nat)

/-- Whether a code point lies in one of the ranges. -/
def Ranges.contains : Ranges → Nat → Bool
  | [], _ => false
  | (low, high) :: rest, n =>
    if n < low then false else if n ≤ high then true else Ranges.contains rest n

/-- Ranges of code points, ends included, in ascending order, and what holds of their characters. -/
abbrev Classes (α : Type) := List (Nat × Nat × α)

/-- What holds of a code point, if it lies in one of the ranges. -/
def Classes.find? {α : Type} : Classes α → Nat → Option α
  | [], _ => none
  | (low, high, a) :: rest, n =>
    if n < low then none else if n ≤ high then some a else Classes.find? rest n

/-! ## Mappings of characters -/

/-- Characters at equal distances, and the image of the first; the images keep the distances. -/
structure Run where
  first : Nat
  last : Nat
  step : Nat
  image : Nat

/-- The image of a code point under the run, if it belongs to it. -/
def Run.image? (run : Run) (n : Nat) : Option Nat :=
  if run.first ≤ n ∧ n ≤ run.last ∧ (n - run.first) % run.step = 0 then
    some (run.image + (n - run.first))
  else none

end SchemaForms.Text
