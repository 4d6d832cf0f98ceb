import SchemaForms.Yaml.ScalarText
import SchemaForms.Yaml.Tag

/-!
# Yaml/Token — the tokens of a YAML text

Tokens are found one after the other by a lexer that keeps the indentation of the open block
collections, the depth of flow collections, and for each flow level the place where a key may have
begun.  When a colon shows that it was one, its marker is put in front of the token read there.
`Token.ofText` is the only entry; it answers nothing unless the whole text consists of tokens.
-/

namespace SchemaForms.Yaml

/-- A token of a YAML text. -/
inductive Token where
  | version (major minor : Nat)
  | tagDirective (handle : List Char) (expansion : Tag)
  | documentStart
  | documentEnd
  | blockSequenceStart
  | blockMappingStart
  | blockEnd
  | flowSequenceStart
  | flowSequenceEnd
  | flowMappingStart
  | flowMappingEnd
  | blockEntry
  | flowEntry
  | key
  | value
  | alias (name : List Char)
  | anchor (name : List Char)
  | tag (handle : List Char) (suffix : Tag)
  | scalar (plain : Bool) (text : List Char)
  deriving DecidableEq

/-- The place where a key may have begun. -/
structure KeyPlace where
  /-- Whether only a key may stand there. -/
  required : Bool
  /-- The number of tokens before it. -/
  tokens : Nat
  index : Nat
  line : Nat
  column : Nat

/-- The state between two tokens. -/
structure Lexer where
  cursor : Cursor
  /-- The tokens found, last first. -/
  found : List Token
  /-- The column of the innermost block collection, or `-1`. -/
  indent : Int
  /-- The columns of the collections around it. -/
  indents : List Int
  /-- How many flow collections are open. -/
  flow : Nat
  /-- For each flow level, innermost first, the place where a key may have begun. -/
  places : List (Option KeyPlace)
  /-- Whether a key may begin here. -/
  keyAllowed : Bool

namespace Lexer

/-- The state before the first token. -/
def start (text : List Char) : Lexer := ⟨.start text, [], -1, [], 0, [none], true⟩

/-- Adds a token and moves on. -/
def push (lexer : Lexer) (token : Token) (cursor : Cursor) : Lexer :=
  { lexer with found := token :: lexer.found, cursor := cursor }

/-- Adds a token at an earlier position. -/
def pushAt (lexer : Lexer) (position : Nat) (token : Token) : Lexer :=
  let later := lexer.found.length - position
  { lexer with found := lexer.found.take later ++ token :: lexer.found.drop later }

/-! ## Places of keys -/

/-- A place is given up at the end of its line and after 1024 bytes. -/
def isStale (cursor : Cursor) (place : KeyPlace) : Bool :=
  decide (place.line < cursor.line) || decide (place.index + 1024 < cursor.index)

/-- Gives up the stale places; a required one is missed. -/
def dropStale (lexer : Lexer) : Except Fault Lexer :=
  let stale : Option KeyPlace → Bool
    | some place => isStale lexer.cursor place
    | none => false
  let missed : Option KeyPlace → Bool
    | some place => isStale lexer.cursor place && place.required
    | none => false
  if lexer.places.any missed then .error .token
  else .ok { lexer with places := lexer.places.map fun p => if stale p then none else p }

/-- Replaces the place of the current flow level; a required one is missed. -/
def setPlace (lexer : Lexer) (place : Option KeyPlace) : Except Fault Lexer :=
  match lexer.places with
  | some old :: rest =>
    if old.required then .error .token else .ok { lexer with places := place :: rest }
  | none :: rest => .ok { lexer with places := place :: rest }
  | [] => .ok { lexer with places := [place] }

/-- Forgets the place of the current flow level. -/
def clearPlace (lexer : Lexer) : Except Fault Lexer := lexer.setPlace none

/-- Remembers that a key may begin here, if one may. -/
def savePlace (lexer : Lexer) : Except Fault Lexer :=
  if lexer.keyAllowed then
    lexer.setPlace (some {
      required := lexer.flow == 0 && decide (lexer.indent = lexer.cursor.column)
      tokens := lexer.found.length
      index := lexer.cursor.index
      line := lexer.cursor.line
      column := lexer.cursor.column })
  else .ok lexer

/-! ## Indentation -/

/-- Closes the block collections to the right of a column. -/
def unrollFrom (column : Int) : List Int → Int → List Token → Int × List Int × List Token
  | [], indent, found => if column < indent then (-1, [], .blockEnd :: found) else (indent, [], found)
  | outer :: indents, indent, found =>
    if column < indent then unrollFrom column indents outer (.blockEnd :: found)
    else (indent, outer :: indents, found)

/-- Closes the block collections to the right of a column, outside flow collections. -/
def unroll (lexer : Lexer) (column : Int) : Lexer :=
  if lexer.flow ≠ 0 then lexer
  else
    let (indent, indents, found) := unrollFrom column lexer.indents lexer.indent lexer.found
    { lexer with indent := indent, indents := indents, found := found }

/-- Opens a block collection at a column to the right of the current one; its token goes to the
given position. -/
def roll (lexer : Lexer) (column : Nat) (position : Nat) (token : Token) : Lexer :=
  if lexer.flow ≠ 0 then lexer
  else if lexer.indent < column then
    { lexer.pushAt position token with
      indent := column
      indents := lexer.indent :: lexer.indents }
  else lexer

/-! ## Tokens of one kind -/

/-- A document marker. -/
def marker (lexer : Lexer) (token : Token) : Except Fault Lexer := do
  let lexer ← (lexer.unroll (-1)).clearPlace
  .ok { lexer.push token (lexer.cursor.skip 3) with keyAllowed := false }

/-- The opening bracket of a flow collection. -/
def openFlow (lexer : Lexer) (token : Token) : Except Fault Lexer := do
  let lexer ← lexer.savePlace
  .ok { lexer.push token lexer.cursor.next with
    places := none :: lexer.places
    flow := lexer.flow + 1
    keyAllowed := true }

/-- The closing bracket of a flow collection. -/
def closeFlow (lexer : Lexer) (token : Token) : Except Fault Lexer := do
  let lexer ← lexer.clearPlace
  .ok { lexer.push token lexer.cursor.next with
    places := if lexer.flow = 0 then lexer.places else lexer.places.tail
    flow := lexer.flow - 1
    keyAllowed := false }

/-- A comma. -/
def flowEntry (lexer : Lexer) : Except Fault Lexer := do
  let lexer ← lexer.clearPlace
  .ok { lexer.push .flowEntry lexer.cursor.next with keyAllowed := true }

/-- The hyphen of a block sequence. -/
def blockEntry (lexer : Lexer) : Except Fault Lexer := do
  if lexer.flow = 0 && !lexer.keyAllowed then .error .token
  let lexer ← (lexer.roll lexer.cursor.column lexer.found.length .blockSequenceStart).clearPlace
  .ok { lexer.push .blockEntry lexer.cursor.next with keyAllowed := true }

/-- The question mark of a complex key. -/
def complexKey (lexer : Lexer) : Except Fault Lexer := do
  if lexer.flow = 0 && !lexer.keyAllowed then .error .token
  let lexer ← (lexer.roll lexer.cursor.column lexer.found.length .blockMappingStart).clearPlace
  .ok { lexer.push .key lexer.cursor.next with keyAllowed := lexer.flow == 0 }

/-- The colon of a value.  If a key may have begun before, it did. -/
def mappingValue (lexer : Lexer) : Except Fault Lexer :=
  match lexer.places with
  | some place :: rest =>
    let lexer := (lexer.pushAt place.tokens .key).roll place.column place.tokens .blockMappingStart
    .ok { lexer.push .value lexer.cursor.next with places := none :: rest, keyAllowed := false }
  | _ =>
    if lexer.flow = 0 && !lexer.keyAllowed then .error .token
    else
      let lexer := lexer.roll lexer.cursor.column lexer.found.length .blockMappingStart
      .ok { lexer.push .value lexer.cursor.next with keyAllowed := lexer.flow == 0 }

/-- An alias or an anchor, at its indicator. -/
def named (lexer : Lexer) (token : List Char → Token) : Except Fault Lexer := do
  let lexer ← lexer.savePlace
  let c := lexer.cursor.next
  let name := c.rest.takeWhile isWordChar
  let c := c.skip name.length
  let ends := match c.rest with
    | [] => true
    | d :: _ => isGap d || ['?', ':', ',', ']', '}', '%', '@', '\x60'].contains d
  if name.isEmpty || !ends then .error .token
  else .ok { lexer.push (token name) c with keyAllowed := false }

/-! ## Tags -/

/-- A tag handle: `!`, a word and possibly a second `!`. -/
def readHandle (c : Cursor) : Except Fault (List Char × Cursor) :=
  if !c.isAt '!' then .error .token
  else
    let word := c.next.rest.takeWhile isWordChar
    let c := c.next.skip word.length
    if c.isAt '!' then .ok ('!' :: (word ++ ['!']), c.next) else .ok ('!' :: word, c)

/-- Moves a cursor along its line to where `rest` begins. -/
def moveTo (c : Cursor) (rest : List Char) : Cursor := c.skip (c.rest.length - rest.length)

/-- The text of a tag at a cursor, and the cursor behind it. -/
def readTagText (verbatim : Bool) (c : Cursor) : Except Fault (Tag × Cursor) :=
  (Tag.read verbatim (c.rest.length + 1) c.rest).map fun (tag, rest) => (tag, moveTo c rest)

/-- A tag: its handle, if it has one, and what follows. -/
def readTag (c : Cursor) : Except Fault (List Char × Tag × Cursor) := do
  if (c.skip 1).isAt '<' then
    let (suffix, c) ← readTagText true (c.skip 2)
    if suffix.isEmpty || !c.isAt '>' then .error .token else .ok ([], suffix.visible, c.next)
  else
    let (handle, c) ← readHandle c
    let (text, c) ← readTagText false c
    if 2 ≤ handle.length && handle.getLast? = some '!' then
      if text.isEmpty then .error .token else .ok (handle, text.visible, c)
    else
      let suffix := Tag.visible (Tag.ofText (handle.drop 1) ++ text)
      if suffix.isEmpty then .ok ([], Tag.ofText ['!'], c) else .ok (['!'], suffix, c)

/-- A tag, which a gap or a comma must end. -/
def tagged (lexer : Lexer) : Except Fault Lexer := do
  let lexer ← lexer.savePlace
  let (handle, suffix, c) ← readTag lexer.cursor
  if !(startsGap c.rest || (lexer.flow ≠ 0 && c.isAt ',')) then .error .token
  else .ok { lexer.push (.tag handle suffix) c with keyAllowed := false }

/-! ## Directives -/

/-- A part of a version number: at most nine digits. -/
def readVersionPart (c : Cursor) : Except Fault (Nat × Cursor) :=
  let digits := c.rest.takeWhile Numeral.isDigit
  if digits.isEmpty || decide (9 < digits.length) then .error .directive
  else .ok (Numeral.digitsValue digits, c.skip digits.length)

/-- What a directive says, and the cursor behind it. -/
def readDirective (c : Cursor) : Except Fault (Token × Cursor) := do
  let name := c.rest.takeWhile isWordChar
  let c := c.skip name.length
  if name.isEmpty || !startsGap c.rest then .error .directive
  else
    let c := c.skipWhile isBlank
    if name = ['Y', 'A', 'M', 'L'] then
      let (major, c) ← readVersionPart c
      if !c.isAt '.' then .error .directive
      let (minor, c) ← readVersionPart c.next
      .ok (.version major minor, c)
    else if name = ['T', 'A', 'G'] then
      let (handle, c) ← readHandle c
      if 1 < handle.length && handle.getLast? ≠ some '!' then .error .directive
      if !(c.peek?.map isBlank).getD false then .error .directive
      let (text, c) ← readTagText true (c.skipWhile isBlank)
      if text.isEmpty || !startsGap c.rest then .error .directive
      .ok (.tagDirective handle text.visible, c)
    else .error .directive

/-- A directive with the rest of its line. -/
def directive (lexer : Lexer) : Except Fault Lexer := do
  let lexer ← (lexer.unroll (-1)).clearPlace
  let (token, c) ← readDirective lexer.cursor.next
  let c := c.skipWhile isBlank
  let c := if c.isAt '#' then c.skipWhile fun d => !isBreak d else c
  if !startsBreak c.rest then .error .directive
  let c := match c.lineBreak? with
    | some (_, c) => c
    | none => c
  .ok { lexer.push token c with keyAllowed := false }

/-! ## Scalars -/

/-- A block scalar. -/
def blockScalar (lexer : Lexer) (literal : Bool) : Except Fault Lexer := do
  let lexer ← lexer.clearPlace
  let (text, c) ← readBlock literal lexer.indent lexer.cursor.next
  .ok { lexer.push (.scalar false text) c with keyAllowed := true }

/-- A quoted scalar. -/
def quotedScalar (lexer : Lexer) (single : Bool) : Except Fault Lexer := do
  let lexer ← lexer.savePlace
  let c := lexer.cursor.next
  let (text, c) ← readQuoted single (c.rest.length + 1) c
  .ok { lexer.push (.scalar false text) c with keyAllowed := false }

/-- A plain scalar.  A key may begin behind it if it ended with a line break. -/
def plainScalar (lexer : Lexer) : Except Fault Lexer := do
  let lexer ← lexer.savePlace
  let c := lexer.cursor
  let plain ← readPlain (lexer.flow != 0) (lexer.indent + 1) (c.rest.length + 1) .empty c
  .ok { lexer.push (.scalar true plain.text) plain.cursor with keyAllowed := plain.broken }

/-! ## The loop -/

/-- Steps over blanks, comments and breaks, and over a byte order mark at the start of a line, which
still takes up a column.  A tab is no indentation where a key may begin. -/
def skipGap (flow : Nat) : Nat → Bool → Cursor → Bool × Cursor
  | 0, keyAllowed, c => (keyAllowed, c)
  | fuel + 1, keyAllowed, c =>
    let c := if c.column = 0 ∧ c.isAt '\ufeff' then c.next else c
    let c := c.skipWhile fun d => d = ' ' || ((flow != 0 || !keyAllowed) && d = '\t')
    let c := if c.isAt '#' then c.skipWhile fun d => !isBreak d else c
    match c.lineBreak? with
    | some (_, c) => skipGap flow fuel (keyAllowed || flow == 0) c
    | none => (keyAllowed, c)

/-- Whether a plain scalar may begin with `c`, followed by `rest`. -/
def startsPlain (flow : Nat) (c : Char) (rest : List Char) : Bool :=
  !(isGap c || "-?:,[]\x7b\x7d#&*!|>'\"%@`".toList.contains c) ||
    (c = '-' && !(rest.head?.map isBlank).getD false) ||
    (flow == 0 && (c = '?' || c = ':') && !startsGap rest)

/-- Reads the token at the cursor. -/
def step (lexer : Lexer) (c : Char) (rest : List Char) : Except Fault Lexer :=
  if lexer.cursor.column = 0 && c = '%' then lexer.directive
  else if lexer.cursor.atMarker then
    lexer.marker (if c = '-' then .documentStart else .documentEnd)
  else if c = '[' then lexer.openFlow .flowSequenceStart
  else if c = '{' then lexer.openFlow .flowMappingStart
  else if c = ']' then lexer.closeFlow .flowSequenceEnd
  else if c = '}' then lexer.closeFlow .flowMappingEnd
  else if c = ',' then lexer.flowEntry
  else if c = '-' && startsGap rest then lexer.blockEntry
  else if c = '?' && (lexer.flow != 0 || startsGap rest) then lexer.complexKey
  else if c = ':' && (lexer.flow != 0 || startsGap rest) then lexer.mappingValue
  else if c = '*' then lexer.named .alias
  else if c = '&' then lexer.named .anchor
  else if c = '!' then lexer.tagged
  else if c = '|' && lexer.flow == 0 then lexer.blockScalar true
  else if c = '>' && lexer.flow == 0 then lexer.blockScalar false
  else if c = '\'' then lexer.quotedScalar true
  else if c = '"' then lexer.quotedScalar false
  else if startsPlain lexer.flow c rest then lexer.plainScalar
  else .error .token

/-- Reads tokens up to the end of the text; every round reads at least one character. -/
def run : Nat → Lexer → Except Fault (List Token)
  | 0, _ => .error .token
  | fuel + 1, lexer => do
    let (keyAllowed, c) :=
      skipGap lexer.flow (lexer.cursor.rest.length + 1) lexer.keyAllowed lexer.cursor
    let lexer ← dropStale { lexer with keyAllowed := keyAllowed, cursor := c }
    let lexer := lexer.unroll c.column
    match c.rest with
    | [] =>
      let lexer ← (lexer.unroll (-1)).clearPlace
      .ok lexer.found.reverse
    | d :: rest =>
      let lexer ← lexer.step d rest
      run fuel lexer

end Lexer

/-- The tokens of a text. -/
def Token.ofText (text : List Char) : Except Fault (List Token) :=
  if text.all isAllowed then Lexer.run (text.length + 1) (.start text) else .error .character

end SchemaForms.Yaml
