import SchemaForms.Yaml.Cursor
import SchemaForms.Yaml.Resolve

/-!
# Yaml/Style — how a string is written

A string is plain where a plain scalar would be read back as that string.  It is a block when it
has line feeds, in single quotes when it would be read as another type or has characters with a
meaning, and in double quotes when it holds what only an escape can show.
-/

namespace SchemaForms.Yaml

/-- The ways of writing a string. -/
inductive Style where
  | plain
  | single
  | double
  | literal
  deriving DecidableEq

namespace Style

/-- A character that can be written as itself. -/
def isPrintable (c : Char) : Bool :=
  let n := c.toNat
  n == 0x0A || (decide (0x20 ≤ n) && decide (n ≤ 0x7E)) ||
    (decide (0xA0 ≤ n) && decide (n ≤ 0xFFFD) && n != 0xFEFF) || decide (0x10000 ≤ n)

/-- Whether some character satisfies `p` and the next one `q`. -/
def hasPair (p q : Char → Bool) : List Char → Bool
  | a :: b :: rest => (p a && q b) || hasPair p q (b :: rest)
  | _ => false

/-- Whether a character is a space. -/
def isSpace (c : Char) : Bool := c = ' '

/-- Whether the text has a space before a break. -/
def hasSpaceBreak (text : List Char) : Bool := hasPair isSpace isBreak text

/-- Whether the text has a break before a space. -/
def hasBreakSpace (text : List Char) : Bool := hasPair isBreak isSpace text

/-- Whether the first or the last character satisfies `p`. -/
def hasEnd (p : Char → Bool) (text : List Char) : Bool :=
  (text.head?.map p).getD false || (text.getLast?.map p).getD false

/-- Whether the text has a colon before a gap or at its end. -/
def hasOpenColon : List Char → Bool
  | [] => false
  | c :: rest => (c = ':' && startsGap rest) || hasOpenColon rest

/-- Whether the text has a hash behind a gap. -/
def hasComment (text : List Char) : Bool := hasPair isGap (· = '#') text

/-- Whether the text begins with a document marker or with a character that has a meaning at the
beginning of a scalar. -/
def startsIndicator : List Char → Bool
  | '-' :: '-' :: '-' :: _ => true
  | '.' :: '.' :: '.' :: _ => true
  | c :: rest =>
    "#,[]\x7b\x7d&*!|>'\"%@`".toList.contains c ||
      ((c = '?' || c = ':' || c = '-') && startsGap rest)
  | [] => false

/-- Whether the text has characters with a meaning of their own in block context. -/
def hasIndicators (text : List Char) : Bool :=
  startsIndicator text || hasOpenColon text || hasComment text

/-- Whether the text needs escapes. -/
def needsEscapes (text : List Char) : Bool := text.any fun c => !isPrintable c

/-- Whether the text can be a plain scalar, leaving aside what it would mean. -/
def allowsPlain (text : List Char) : Bool :=
  !(hasEnd isSpace text || text.any isBreak || needsEscapes text || hasIndicators text)

/-- Whether the text can stand in single quotes. -/
def allowsSingle (text : List Char) : Bool :=
  !(hasBreakSpace text || hasSpaceBreak text || needsEscapes text)

/-- Whether the text can be a block. -/
def allowsLiteral (text : List Char) : Bool :=
  !((text.getLast?.map isSpace).getD false || hasSpaceBreak text || needsEscapes text)

/-- Whether a plain scalar would not be read as a string, or is a number by its looks. -/
def needsQuotes (text : List Char) : Bool :=
  Plain.ofText text != .word || Plain.isZeroPadded text

/-- The style of a string; `asKey` for a key on the line of its value. -/
def ofText (text : List Char) (asKey : Bool) : Style :=
  let quoted := if allowsSingle text then .single else .double
  if text.contains '\n' then if allowsLiteral text && !asKey then .literal else .double
  else if needsQuotes text || (text.isEmpty && asKey) || !allowsPlain text then quoted
  else .plain

end Style

/-- Whether a key can stand on the line of its value: short and without breaks. -/
def isSimpleKey (text : List Char) : Bool :=
  !text.any isBreak && decide (text.foldl (fun n c => n + c.utf8Size) 0 ≤ 128)

end SchemaForms.Yaml
