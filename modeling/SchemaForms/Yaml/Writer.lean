import SchemaForms.Decimal.Layout
import SchemaForms.Yaml.Style

/-!
# Yaml/Writer — document values to YAML text

Block style throughout: one line per entry, two spaces for each level, and the entries of a sequence
at the column of the key that holds it.  Only empty collections are written in brackets.  Each node
ends with a line break.
-/

namespace SchemaForms.Yaml

/-- Where a node begins. -/
inductive Place where
  /-- At the beginning of the text. -/
  | top
  /-- Behind a hyphen, a question mark or a colon at the beginning of a line. -/
  | entry
  /-- Behind a key on the same line. -/
  | value
  deriving DecidableEq

/-- The space that parts a node from what stands before it on the line. -/
def Place.gap : Place → List Char
  | .top => []
  | _ => [' ']

/-- The column of a scalar's further lines, inside a collection at column `outer`. -/
def Place.scalarIndent (place : Place) (outer : Nat) : Nat :=
  if place = .top then 2 else outer + 2

/-- Spaces up to a column. -/
def pad (column : Nat) : List Char := List.replicate column ' '

/-! ## Scalars -/

/-- An upper case hexadecimal digit. -/
def upperHexDigit (d : Nat) : Char := if d < 10 then Char.ofNat (48 + d) else Char.ofNat (55 + d)

/-- A number in upper case hexadecimal digits of fixed width. -/
def upperHex (n : Nat) : Nat → List Char
  | 0 => []
  | width + 1 => upperHex (n / 16) width ++ [upperHexDigit (n % 16)]

/-- The escape of a character in double quotes. -/
def escapeText (c : Char) : List Char :=
  let n := c.toNat
  if c = '\x00' then ['0'] else if n = 0x07 then ['a'] else if n = 0x08 then ['b']
  else if c = '\t' then ['t'] else if c = '\n' then ['n'] else if n = 0x0B then ['v']
  else if n = 0x0C then ['f'] else if c = '\r' then ['r'] else if n = 0x1B then ['e']
  else if c = '"' then ['"'] else if c = '\\' then ['\\'] else if n = 0x85 then ['N']
  else if n = 0xA0 then ['_'] else if n = 0x2028 then ['L'] else if n = 0x2029 then ['P']
  else if n ≤ 0xFF then 'x' :: upperHex n 2
  else if n ≤ 0xFFFF then 'u' :: upperHex n 4
  else 'U' :: upperHex n 8

/-- A character in double quotes. -/
def doubleQuotedChar (c : Char) : List Char :=
  if !Style.isPrintable c || isBreak c || c = '"' || c = '\\' then '\\' :: escapeText c else [c]

/-- The inside of single quotes: quotes are doubled, and the line after a break is indented.
`fresh` says that a break stands just before. -/
def singleQuotedBody (indent : Nat) (fresh : Bool) : List Char → List Char
  | [] => if fresh then pad indent else []
  | c :: rest =>
    if isBreak c then c :: singleQuotedBody indent true rest
    else (if fresh then pad indent else []) ++
      (if c = '\'' then ['\'', '\''] else [c]) ++ singleQuotedBody indent false rest

/-- The lines of a block: each line that is not empty is indented. -/
def literalBody (indent : Nat) (fresh : Bool) : List Char → List Char
  | [] => []
  | c :: rest =>
    if isBreak c then c :: literalBody indent true rest
    else (if fresh then pad indent else []) ++ c :: literalBody indent false rest

/-- The header of a block: an indentation if the text begins with a gap, and what happens to the
breaks at its end. -/
def literalHeader (text : List Char) : List Char :=
  let starts := (text.head?.map fun c => c = ' ' || isBreak c).getD false
  let ends := match text.reverse with
    | c :: d :: _ => if !isBreak c then ['-'] else if isBreak d then ['+'] else []
    | [c] => if !isBreak c then ['-'] else ['+']
    | [] => ['-']
  '|' :: ((if starts then ['2'] else []) ++ ends)

/-- A line break, unless the text ends with one. -/
def closeLine (text : List Char) : List Char :=
  if (text.getLast?.map isBreak).getD false then text else text ++ ['\n']

/-- A string in a style other than the block, without the break behind it. -/
def inlineText (style : Style) (indent : Nat) (text : List Char) : List Char :=
  match style with
  | .plain => text
  | .single => '\'' :: (singleQuotedBody indent false text ++ ['\''])
  | .double | .literal => '"' :: (text.flatMap doubleQuotedChar ++ ['"'])

/-- A string with the break behind it. -/
def stringText (indent : Nat) (text : List Char) : List Char :=
  let style := Style.ofText text false
  if style = .literal then
    literalHeader text ++ '\n' :: closeLine (literalBody indent true text)
  else inlineText style indent text ++ ['\n']

/-- A number. -/
def numberText : Number → List Char
  | .int n => Decimal.intText n
  | .float bits => Decimal.Layout.yaml.text bits

/-! ## Nodes -/

/-- A key with what follows it up to its value, and the place of that value. -/
def keyText (indent : Nat) (key : List Char) : List Char × Place :=
  if isSimpleKey key then (inlineText (Style.ofText key true) (indent + 2) key ++ [':'], .value)
  else ('?' :: ' ' :: (stringText (indent + 2) key ++ pad indent ++ [':']), .entry)

mutual

/-- A node inside a collection at column `outer`. -/
def nodeText (outer : Nat) (place : Place) : Value → List Char
  | .null => place.gap ++ ['n', 'u', 'l', 'l', '\n']
  | .bool true => place.gap ++ ['t', 'r', 'u', 'e', '\n']
  | .bool false => place.gap ++ ['f', 'a', 'l', 's', 'e', '\n']
  | .num n => place.gap ++ numberText n ++ ['\n']
  | .str s => place.gap ++ stringText (place.scalarIndent outer) s.toList
  | .arr [] => place.gap ++ ['[', ']', '\n']
  | .arr (item :: items) =>
    match place with
    | .top => itemsText 0 true (item :: items)
    | .entry => ' ' :: itemsText (outer + 2) true (item :: items)
    | .value => '\n' :: itemsText outer false (item :: items)
  | .obj [] => place.gap ++ ['{', '}', '\n']
  | .obj (member :: members) =>
    match place with
    | .top => membersText 0 true (member :: members)
    | .entry => ' ' :: membersText (outer + 2) true (member :: members)
    | .value => '\n' :: membersText (outer + 2) false (member :: members)

/-- The entries of a sequence at a column; the first may begin in the middle of a line. -/
def itemsText (indent : Nat) (inLine : Bool) : List Value → List Char
  | [] => []
  | item :: items =>
    (if inLine then [] else pad indent) ++ '-' :: nodeText indent .entry item ++
      itemsText indent false items

/-- The entries of a mapping at a column; the first may begin in the middle of a line. -/
def membersText (indent : Nat) (inLine : Bool) : List (String × Value) → List Char
  | [] => []
  | (key, value) :: members =>
    let (text, place) := keyText indent key.toList
    (if inLine then [] else pad indent) ++ text ++ nodeText indent place value ++
      membersText indent false members

end

/-- The YAML text of a value. -/
def write (value : Value) : String := String.ofList (nodeText 0 .top value)

end SchemaForms.Yaml
