import SchemaForms.Decimal.Layout
import SchemaForms.Value.Basic

/-!
# Json/Writer — document values to JSON text

Two forms of one grammar: `compact` without any space, and `pretty` with one element per line and
two spaces for each level.  Quotes, backslashes and control characters are escaped; all else is
written as it is.
-/

namespace SchemaForms.Json

/-- A hexadecimal digit in lower case. -/
def hexDigit (d : Nat) : Char := if d < 10 then Char.ofNat (48 + d) else Char.ofNat (87 + d)

/-- A character inside a string. -/
def escape (c : Char) : List Char :=
  if c = '"' then ['\\', '"']
  else if c = '\\' then ['\\', '\\']
  else if c = '\x08' then ['\\', 'b']
  else if c = '\t' then ['\\', 't']
  else if c = '\n' then ['\\', 'n']
  else if c = '\x0c' then ['\\', 'f']
  else if c = '\r' then ['\\', 'r']
  else if c.toNat < 0x20 then
    ['\\', 'u', '0', '0', hexDigit (c.toNat / 16), hexDigit (c.toNat % 16)]
  else [c]

/-- A string in quotes. -/
def quote (text : String) : List Char := '"' :: (text.toList.flatMap escape ++ ['"'])

/-- A number. -/
def numberText : Number → List Char
  | .int n => Decimal.intText n
  | .float bits => Decimal.Layout.json.text bits

/-- A value that holds no other values. -/
def boolText (b : Bool) : List Char :=
  if b then ['t', 'r', 'u', 'e'] else ['f', 'a', 'l', 's', 'e']

/-! ## Without spaces -/

mutual

/-- The text of a value, without spaces. -/
def compactChars : Value → List Char
  | .null => ['n', 'u', 'l', 'l']
  | .bool b => boolText b
  | .num n => numberText n
  | .str s => quote s
  | .arr [] => ['[', ']']
  | .arr (item :: items) => '[' :: (compactChars item ++ compactItems items)
  | .obj [] => ['{', '}']
  | .obj ((key, value) :: members) =>
    '{' :: (quote key ++ ':' :: (compactChars value ++ compactMembers members))

/-- The further elements of a sequence, and its closing bracket. -/
def compactItems : List Value → List Char
  | [] => [']']
  | item :: items => ',' :: (compactChars item ++ compactItems items)

/-- The further members of an object, and its closing brace. -/
def compactMembers : List (String × Value) → List Char
  | [] => ['}']
  | (key, value) :: members =>
    ',' :: (quote key ++ ':' :: (compactChars value ++ compactMembers members))

end

/-- The compact text of a value. -/
def compact (value : Value) : String := String.ofList (compactChars value)

/-! ## One element per line -/

/-- A line break followed by the indentation of a level. -/
def newline (level : Nat) : List Char := '\n' :: List.replicate (2 * level) ' '

mutual

/-- The text of a value whose first line is already indented. -/
def prettyChars (level : Nat) : Value → List Char
  | .null => ['n', 'u', 'l', 'l']
  | .bool b => boolText b
  | .num n => numberText n
  | .str s => quote s
  | .arr [] => ['[', ']']
  | .arr (item :: items) =>
    '[' :: (newline (level + 1) ++ prettyChars (level + 1) item ++ prettyItems level items)
  | .obj [] => ['{', '}']
  | .obj ((key, value) :: members) =>
    '{' :: (newline (level + 1) ++ quote key ++ ':' :: ' ' :: prettyChars (level + 1) value ++
      prettyMembers level members)

/-- The further elements of a sequence at `level`, and its closing bracket. -/
def prettyItems (level : Nat) : List Value → List Char
  | [] => newline level ++ [']']
  | item :: items =>
    ',' :: (newline (level + 1) ++ prettyChars (level + 1) item ++ prettyItems level items)

/-- The further members of an object at `level`, and its closing brace. -/
def prettyMembers (level : Nat) : List (String × Value) → List Char
  | [] => newline level ++ ['}']
  | (key, value) :: members =>
    ',' :: (newline (level + 1) ++ quote key ++ ':' :: ' ' :: prettyChars (level + 1) value ++
      prettyMembers level members)

end

/-- The text of a value with one element per line and an indent of two spaces. -/
def pretty (value : Value) : String := String.ofList (prettyChars 0 value)

end SchemaForms.Json
