import SchemaForms.Decimal.Layout
import SchemaForms.Path.Basic
import SchemaForms.Text.Numeral

/-!
# Path/Key — the written form of a path

Keys are joined with `.` and indices are written `[n]`.  The four characters that carry structure
are escaped inside a key, so a key `"0"` and an index `0` stay apart.  Reading is total: it is a
run of a small automaton over the characters, and whatever is left open at the end is closed.
-/

namespace SchemaForms.Path

/-! ## Writing -/

/-- Whether a character carries structure in a written path. -/
def isStructural (c : Char) : Bool := c = '.' || c = '[' || c = ']' || c = '\\'

/-- A key with its structural characters escaped by a backslash. -/
def escape : List Char → List Char
  | [] => []
  | c :: rest => if isStructural c then '\\' :: c :: escape rest else c :: escape rest

/-- A step after the first. -/
def segmentText : Segment → List Char
  | .key text => '.' :: escape text.toList
  | .index position => '[' :: (Decimal.natText position ++ [']'])

/-- The written form, as characters; the first key has no separator before it. -/
def keyChars : Path → List Char
  | [] => []
  | .key text :: rest => escape text.toList ++ rest.flatMap segmentText
  | .index position :: rest => (Segment.index position :: rest).flatMap segmentText

/-- The written form of a path, under which the session files what belongs to the path. -/
def key (path : Path) : String := String.ofList path.keyChars

/-! ## Reading -/

/-- What the reader is in the middle of. -/
inductive Reading where
  /-- Key text; it counts as a key, even when empty, once `started`. -/
  | text (current : List Char) (started : Bool)
  /-- Key text right after a backslash. -/
  | escaped (current : List Char)
  /-- Inside brackets. -/
  | bracket (digits : List Char)
  /-- Right after a closing bracket. -/
  | afterBracket

/-- The step that bracketed text stands for: an index, or a key when it is no index. -/
def bracketSegment (digits : List Char) : Segment :=
  match Numeral.index? digits with
  | some n => .index n
  | none => .key (String.ofList digits)

/-- Reads one character of key text. -/
def readText (done : Path) (current : List Char) (started : Bool) (c : Char) : Path × Reading :=
  if c = '\\' then (done, .escaped current)
  else if c = '.' then (done ++ [.key (String.ofList current)], .text [] true)
  else if c = '[' then
    (if started then done ++ [.key (String.ofList current)] else done, .bracket [])
  else (done, .text (current ++ [c]) true)

/-- Reads one character.  A separator right after a bracket opens the next key. -/
def readChar : Path × Reading → Char → Path × Reading
  | (done, .text current started), c => readText done current started c
  | (done, .escaped current), c => (done, .text (current ++ [c]) true)
  | (done, .bracket digits), c =>
    if c = ']' then (done ++ [bracketSegment digits], .afterBracket)
    else (done, .bracket (digits ++ [c]))
  | (done, .afterBracket), c =>
    if c = '.' then (done, .text [] true) else readText done [] false c

/-- Closes what is open at the end of the text. -/
def finish : Path × Reading → Path
  | (done, .text current started) =>
    if started then done ++ [.key (String.ofList current)] else done
  | (done, .escaped current) => done ++ [.key (String.ofList current)]
  | (done, .bracket digits) => done ++ [bracketSegment digits]
  | (done, .afterBracket) => done

/-- The path that a text denotes. -/
def ofChars (text : List Char) : Path := finish (text.foldl readChar ([], .text [] false))

/-- The path that a text denotes; the inverse of `key` on the paths that `key` tells apart. -/
def parse (text : String) : Path := ofChars text.toList

end SchemaForms.Path
