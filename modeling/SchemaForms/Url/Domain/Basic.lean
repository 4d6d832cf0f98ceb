import SchemaForms.Text.Composition
import SchemaForms.Url.Domain.Direction
import SchemaForms.Url.Domain.Excluded
import SchemaForms.Url.Domain.Joining
import SchemaForms.Url.Domain.Letters
import SchemaForms.Url.Domain.Marks
import SchemaForms.Url.Domain.Texts
import SchemaForms.Url.Punycode

/-!
# Url/Domain/Basic — domains in ASCII

A domain consists of labels between full stops.  It is folded first: each character is dropped,
refused, replaced or kept, and the result is composed.  A label that goes beyond ASCII is then written
in ASCII behind a mark.  A label that bears the mark already must have been written from one that is
folded.
-/

namespace SchemaForms.Url.Domain

/-! ## The form in which domains are compared -/

/-- The tables of characters with one character as their image. -/
def folds : List (List (Nat × Nat)) :=
  [letterFolds, symbolFolds, radicalFolds, eastAsianFolds, presentationFolds, planeFolds]

/-- The tables of characters with a text as their image. -/
def texts : List (List (Nat × List Nat)) :=
  [letterTexts, greekTexts, symbolTexts, enclosedTexts, squareTexts, ligatureTexts, arabicPairTexts,
    arabicTexts, planeTexts]

/-- The code points of the image of a code point that is replaced. -/
def image? (n : Nat) : Option (List Nat) :=
  match foldingRuns.findSome? (·.image? n) with
  | some image => some [image]
  | none =>
    match folds.findSome? fun table => table.find? (·.1 = n) with
    | some (_, image) => some [image]
    | none => (texts.findSome? fun table => table.find? (·.1 = n)).map (·.2)

/-- The image of a character. -/
def foldChar (c : Char) : List Char :=
  if c.toNat < 0x80 then [c.toLower]
  else if ignored.contains c.toNat then []
  else match image? c.toNat with
    | some image => image.map Char.ofNat
    | none => [c]

/-- Whether no domain holds a character. -/
def isDisallowed (c : Char) : Bool :=
  disallowedBelow.contains c.toNat || disallowedAbove.contains c.toNat

/-- A text as domains are compared; nothing, if it holds a character that no domain does. -/
def folded? (text : List Char) : Option (List Char) :=
  if text.any isDisallowed then none else some (Text.composed (text.flatMap foldChar))

/-! ## Labels -/

/-- The mark of a label that was written in ASCII. -/
def writtenMark : List Char := ['x', 'n', '-', '-']

/-- A character of ASCII. -/
def isAscii (c : Char) : Bool := decide (c.toNat < 0x80)

/-- How long a label beyond ASCII can be. -/
def labelLimit : Nat := 1000

/-- How long a text can be that was written from a label. -/
def writtenLimit : Nat := 2000

/-- Characters that no domain holds once it is folded: controls, blanks, and what parts a URL. -/
def isForbidden (c : Char) : Bool :=
  decide (c.toNat ≤ 0x20) || c.toNat = 0x7F ||
    ['%', '#', '/', ':', '<', '>', '?', '@', '[', '\\', ']', '^', '|'].contains c

/-- Whether a folded label beyond ASCII is one of a domain: no mark comes first, and every joiner has
something to shape. -/
def isLabel (label : List Char) : Bool :=
  !(label.head?.any fun c => marks.contains c.toNat) && joinersFit [] label &&
    decide (label.length ≤ labelLimit)

/-- The label that a text was written from; it goes beyond ASCII, and is folded. -/
def writtenFrom? (text : List Char) : Option (List Char) :=
  if writtenLimit < text.length then none
  else (Punycode.decode? text).filter fun label =>
    !label.all isAscii && folded? label = some label && isLabel label &&
      !writtenMark.isPrefixOf label && Punycode.encode label = text

/-- The label that a folded label means. -/
def meant? (label : List Char) : Option (List Char) :=
  if writtenMark.isPrefixOf label then writtenFrom? (label.drop writtenMark.length)
  else if label.all isAscii || isLabel label then some label
  else none

/-- A label in ASCII. -/
def written (label : List Char) : List Char :=
  if label.all isAscii then label else writtenMark ++ Punycode.encode label

/-- Whether the labels of a domain keep to their directions. -/
def keepDirections (labels : List (List Char)) : Bool :=
  !(labels.any fun label => label.any goesLeft) || labels.all keepsDirection

/-- A domain in ASCII. -/
def ascii? (text : List Char) : Option (List Char) := do
  let domain ← folded? text
  let labels ← (domain.splitOn '.').mapM meant?
  if domain.any isForbidden || !keepDirections labels then none
  else some (['.'].intercalate (labels.map written))

end SchemaForms.Url.Domain
