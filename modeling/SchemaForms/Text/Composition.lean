import SchemaForms.Text.Combining
import SchemaForms.Text.Composites

/-!
# Text/Composition — one form for equal texts

Texts that differ only in how their characters are composed, or in the order of marks that do not
touch each other, are equal to a reader.  `composed` gives equal texts one form: every character is
split into its parts, the marks behind it are sorted by their classes, and what can be put together
again is.
-/

namespace SchemaForms.Text

/-! ## Syllables -/

/-- A syllable of Hangul: its first consonant, its vowel, and its last consonant or zero, by number. -/
def syllable (first vowel last : Nat) : Char := Char.ofNat (0xAC00 + (first * 21 + vowel) * 28 + last)

/-- The letters of a syllable of Hangul. -/
def syllableParts? (c : Char) : Option (List Char) :=
  if 0xAC00 ≤ c.toNat ∧ c.toNat ≤ 0xD7A3 then
    let n := c.toNat - 0xAC00
    let front := [Char.ofNat (0x1100 + n / 588), Char.ofNat (0x1161 + n % 588 / 28)]
    some (if n % 28 = 0 then front else front ++ [Char.ofNat (0x11A7 + n % 28)])
  else none

/-- The syllable that two letters, or a syllable and a letter, make up. -/
def syllableOf? (a b : Char) : Option Char :=
  if 0x1100 ≤ a.toNat ∧ a.toNat ≤ 0x1112 ∧ 0x1161 ≤ b.toNat ∧ b.toNat ≤ 0x1175 then
    some (syllable (a.toNat - 0x1100) (b.toNat - 0x1161) 0)
  else if 0xAC00 ≤ a.toNat ∧ a.toNat ≤ 0xD7A3 ∧ (a.toNat - 0xAC00) % 28 = 0 ∧
      0x11A8 ≤ b.toNat ∧ b.toNat ≤ 0x11C2 then
    some (Char.ofNat (a.toNat + (b.toNat - 0x11A7)))
  else none

/-! ## Parts -/

/-- The tables of composites, those made of further composites first. -/
def composites : List (List Composite) :=
  [thirdComposites, secondComposites, latinComposites, greekComposites, otherComposites]

/-- The tables of all characters made of two, those made of further ones first. -/
def splits : List (List Composite) := secondSplits :: composites ++ [firstSplits]

/-- The tables of characters that are another form of one. -/
def variantTables : List (List (Nat × Nat)) := [variants, ideographVariants, planeVariants]

/-- The character that a character is another form of. -/
def plainForm (c : Char) : Char :=
  match variantTables.findSome? fun table => table.find? (·.1 = c.toNat) with
  | some (_, n) => Char.ofNat n
  | none => c

/-- A character split by a table. -/
def splitChar (table : List Composite) (c : Char) : List Char :=
  match table.find? (·.1 = c.toNat) with
  | some (_, a, b) => [Char.ofNat a, Char.ofNat b]
  | none => [c]

/-- The parts of a character that are not made of others. -/
def parts (c : Char) : List Char :=
  if c.toNat < 0xC0 then [c]
  else match syllableParts? c with
    | some letters => letters
    | none => splits.foldl (fun text table => text.flatMap (splitChar table)) [plainForm c]

/-- The character that two make up. -/
def whole? (a b : Char) : Option Char :=
  if b.toNat < 0x300 then none
  else match syllableOf? a b with
    | some c => some c
    | none =>
      (composites.findSome? fun table => table.find? (·.2 = (a.toNat, b.toNat))).map fun entry =>
        Char.ofNat entry.1

/-! ## Order -/

/-- Puts a mark in front of sorted ones, behind those of lower classes. -/
def insertMark (c : Char) : List Char → List Char
  | [] => [c]
  | d :: rest =>
    if 0 < combiningClass d ∧ combiningClass d < combiningClass c then d :: insertMark c rest
    else c :: d :: rest

/-- A text with the marks behind each character sorted by their classes; marks of one class keep
their order. -/
def ordered (text : List Char) : List Char := text.foldr insertMark []

/-! ## Composition -/

/-- Composes a text from a starter on: `behind` are the marks behind it that it did not take up, last
first.  A mark is taken up unless one of its own class or a higher one stands between. -/
def composeFrom (starter : Char) (behind : List Char) : List Char → List Char
  | [] => starter :: behind.reverse
  | c :: rest =>
    let reaches := behind.head?.all fun d => combiningClass d < combiningClass c
    match if reaches then whole? starter c else none with
    | some taken => composeFrom taken behind rest
    | none =>
      if isStarter c then starter :: behind.reverse ++ composeFrom c [] rest
      else composeFrom starter (c :: behind) rest

/-- Composes a text of sorted parts. -/
def compose : List Char → List Char
  | [] => []
  | c :: rest => if isStarter c then composeFrom c [] rest else c :: compose rest

/-- The one form of all texts that are equal to this one. -/
def composed (text : List Char) : List Char := compose (ordered (text.flatMap parts))

end SchemaForms.Text
