/-!
# Json/Fault — what can be wrong with JSON text, and where

A failure names the fault and how many bytes of the text lie behind the offending position, so a
reader that only sees the rest of the text can report it; `Failure.describe` turns that into a line
and a column of the whole text.
-/

namespace SchemaForms.Json

/-- What is wrong with a JSON text. -/
inductive Fault where
  | endInList
  | endInObject
  | endInString
  | endInValue
  | expectedColon
  | expectedCommaOrBracket
  | expectedCommaOrBrace
  | expectedWord
  | expectedValue
  | invalidEscape
  | invalidNumber
  | numberOutOfRange
  | loneSurrogate
  | controlCharacter
  | keyNotText
  | unfinishedEscape
  | trailingComma
  | trailingText
  | tooDeep
  deriving DecidableEq

/-- The wording of a fault. -/
def Fault.message : Fault → String
  | .endInList => "EOF while parsing a list"
  | .endInObject => "EOF while parsing an object"
  | .endInString => "EOF while parsing a string"
  | .endInValue => "EOF while parsing a value"
  | .expectedColon => "expected `:`"
  | .expectedCommaOrBracket => "expected `,` or `]`"
  | .expectedCommaOrBrace => "expected `,` or `\x7d`"
  | .expectedWord => "expected ident"
  | .expectedValue => "expected value"
  | .invalidEscape => "invalid escape"
  | .invalidNumber => "invalid number"
  | .numberOutOfRange => "number out of range"
  | .loneSurrogate => "lone leading surrogate in hex escape"
  | .controlCharacter => "control character (\\u0000-\\u001F) found while parsing a string"
  | .keyNotText => "key must be a string"
  | .unfinishedEscape => "unexpected end of hex escape"
  | .trailingComma => "trailing comma"
  | .trailingText => "trailing characters"
  | .tooDeep => "recursion limit exceeded"

/-- How many bytes a text takes. -/
def byteCount (text : List Char) : Nat := text.foldl (fun n c => n + c.utf8Size) 0

/-- A fault, with the number of bytes behind the offending position. -/
structure Failure where
  fault : Fault
  behind : Nat
  deriving DecidableEq

/-- A failure at the last byte read: all of `rest` lies behind it. -/
def Failure.at (fault : Fault) (rest : List Char) : Failure := ⟨fault, byteCount rest⟩

/-- A failure some bytes into the rest, at the end of the text at most. -/
def Failure.ahead (fault : Fault) (rest : List Char) (bytes : Nat) : Failure :=
  ⟨fault, byteCount rest - bytes⟩

/-- Line and column after reading some bytes: lines are ended by line feeds and counted from one,
the column is the number of bytes since the last line feed. -/
def position : List Char → Nat → Nat × Nat → Nat × Nat
  | [], _, at_ => at_
  | c :: rest, bytes, (line, column) =>
    if bytes = 0 then (line, column)
    else if c = '\n' then position rest (bytes - 1) (line + 1, 0)
    else position rest (bytes - c.utf8Size) (line, column + min bytes c.utf8Size)

/-- The message of a failure in `text`, with its line and column. -/
def Failure.describe (failure : Failure) (text : List Char) : String :=
  let (line, column) := position text (byteCount text - failure.behind) (1, 0)
  s!"{failure.fault.message} at line {line} column {column}"

end SchemaForms.Json
