/-!
# Yaml/Cursor — a place in a YAML text

A cursor is the rest of the text together with the line and column reached and the number of bytes
read.  The end of the text counts as a blank and as a break where a token may end.  A text that is
refused is refused with a fault, which does not say where.
-/

namespace SchemaForms.Yaml

/-! ## Faults -/

/-- Why a text is not a YAML document of this library. -/
inductive Fault where
  /-- A character that no YAML text may hold. -/
  | character
  /-- Characters that form no token where they stand. -/
  | token
  /-- A scalar that is not closed or wrongly indented. -/
  | scalar
  /-- A directive that is unknown or malformed. -/
  | directive
  /-- Tokens that form no document. -/
  | nesting
  /-- A tag without meaning here, or one that its scalar does not fit. -/
  | tag
  /-- An alias without an anchor, or an expansion beyond all measure. -/
  | alias
  /-- A key that is no scalar. -/
  | key
  /-- An integer beyond 64 bits. -/
  | range
  /-- Collections nested too deeply. -/
  | depth
  /-- More than one document. -/
  | documents
  deriving DecidableEq

/-- The wording of a refusal. -/
def Fault.message : Fault → String
  | .character => "control characters are not allowed"
  | .token => "found characters that cannot start any token"
  | .scalar => "malformed scalar"
  | .directive => "malformed directive"
  | .nesting => "unexpected token"
  | .tag => "the tag does not apply"
  | .alias => "unknown anchor or repetition limit exceeded"
  | .key => "mapping keys must be scalars"
  | .range => "integer out of range"
  | .depth => "recursion limit exceeded"
  | .documents => "more than one document"

/-! ## Character classes -/

/-- A line break, of any of the five kinds. -/
def isBreak (c : Char) : Bool :=
  c = '\n' || c = '\r' || c = '\x85' || c = '\u2028' || c = '\u2029'

/-- A space or a tab. -/
def isBlank (c : Char) : Bool := c = ' ' || c = '\t'

/-- A blank or a break. -/
def isGap (c : Char) : Bool := isBlank c || isBreak c

/-- A letter or digit of ASCII, an underscore or a hyphen. -/
def isWordChar (c : Char) : Bool := c.isAlphanum || c = '_' || c = '-'

/-- A character that a YAML text may hold. -/
def isAllowed (c : Char) : Bool :=
  let n := c.toNat
  n == 0x09 || n == 0x0A || n == 0x0D || (decide (0x20 ≤ n) && decide (n ≤ 0x7E)) || n == 0x85 ||
    (decide (0xA0 ≤ n) && decide (n ≤ 0xD7FF)) || (decide (0xE000 ≤ n) && decide (n ≤ 0xFFFD)) ||
    decide (0x10000 ≤ n)

/-- Whether a text starts with a gap or is at its end. -/
def startsGap : List Char → Bool
  | [] => true
  | c :: _ => isGap c

/-- Whether a text starts with a break or is at its end. -/
def startsBreak : List Char → Bool
  | [] => true
  | c :: _ => isBreak c

/-! ## The cursor -/

/-- A place in a text: what follows it, its line and column, and the number of bytes before it. -/
structure Cursor where
  rest : List Char
  index : Nat
  line : Nat
  column : Nat
  deriving DecidableEq

namespace Cursor

/-- The start of a text. -/
def start (text : List Char) : Cursor := ⟨text, 0, 0, 0⟩

/-- The number of bytes of a text. -/
def width (text : List Char) : Nat := text.foldl (fun n c => n + c.utf8Size) 0

/-- Steps over some characters of one line. -/
def skip (c : Cursor) (n : Nat) : Cursor :=
  ⟨c.rest.drop n, c.index + width (c.rest.take n), c.line, c.column + n⟩

/-- Steps over one character. -/
def next (c : Cursor) : Cursor := c.skip 1

/-- Steps over the longest run of characters of one line that satisfy `p`. -/
def skipWhile (c : Cursor) (p : Char → Bool) : Cursor := c.skip (c.rest.takeWhile p).length

/-- The character at the cursor. -/
def peek? (c : Cursor) : Option Char := c.rest.head?

/-- Whether the cursor is at a certain character. -/
def isAt (c : Cursor) (expected : Char) : Bool := c.rest.head? = some expected

/-- The line break at the cursor, if there is one, and the cursor behind it.  All breaks are read as
a line feed, except the line and paragraph separators, which stay themselves. -/
def lineBreak? (c : Cursor) : Option (Char × Cursor) :=
  match c.rest with
  | '\r' :: '\n' :: rest => some ('\n', ⟨rest, c.index + 2, c.line + 1, 0⟩)
  | b :: rest =>
    if isBreak b then
      some (if b = '\u2028' ∨ b = '\u2029' then b else '\n', ⟨rest, c.index + b.utf8Size, c.line + 1, 0⟩)
    else none
  | [] => none

/-- Whether the cursor is at a document marker: three hyphens or three dots at the start of a line,
standing alone. -/
def atMarker (c : Cursor) : Bool :=
  c.column == 0 && match c.rest with
    | '-' :: '-' :: '-' :: rest => startsGap rest
    | '.' :: '.' :: '.' :: rest => startsGap rest
    | _ => false

end Cursor

end SchemaForms.Yaml
