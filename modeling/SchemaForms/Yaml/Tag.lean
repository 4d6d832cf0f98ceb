import SchemaForms.Text.Numeral
import SchemaForms.Yaml.Cursor

/-!
# Yaml/Tag — the tags of a YAML text

A tag is a string of bytes, because escapes in it stand for bytes, and these need not make up a text.
The tags of null, booleans, numbers and strings have a meaning of their own; one that begins with an
exclamation mark belongs to the document and means nothing here.
-/

namespace SchemaForms.Yaml

/-- The bytes of a tag. -/
abbrev Tag := List UInt8

namespace Tag

/-- The tag that a text spells. -/
def ofText (text : List Char) : Tag := text.flatMap String.utf8EncodeChar

/-- The part of a tag that counts: what comes before its first zero byte. -/
def visible (tag : Tag) : Tag := tag.takeWhile (· ≠ 0)

/-! ## Kinds -/

/-- What the tags with a meaning have in common. -/
def coreHandle : Tag := ofText "tag:yaml.org,2002:".toList

/-- A tag with a meaning, by its short name. -/
def core (name : String) : Tag := coreHandle ++ ofText name.toList

/-- Whether a tag is one of a document's own: a mark, and a text behind it. -/
def isLocal (tag : Tag) : Bool :=
  tag.head? = some 0x21 && (String.fromUTF8? ⟨tag.tail.toArray⟩).isSome

/-- Whether a tag begins like one of a document's own. -/
def isMarked (tag : Tag) : Bool := tag.head? = some 0x21

/-! ## Reading -/

/-- Whether a character may stand in a tag; commas and brackets only in a verbatim one. -/
def isTagChar (verbatim : Bool) (c : Char) : Bool :=
  isWordChar c || ";/?:@&=+$.!~*'()%".toList.contains c || (verbatim && [',', '[', ']'].contains c)

/-- How many bytes a character has that begins with this one; none begins with other bytes. -/
def width (octet : Nat) : Nat :=
  if octet < 0x80 then 1 else if octet / 32 = 6 then 2 else if octet / 16 = 14 then 3
  else if octet / 8 = 30 then 4 else 0

/-- An escaped byte: a percent sign with two hexadecimal digits. -/
def readOctet : List Char → Except Fault (Nat × List Char)
  | '%' :: a :: b :: rest =>
    match Numeral.natural? 16 [a, b] with
    | some octet => .ok (octet, rest)
    | none => .error .token
  | _ => .error .token

/-- The escaped bytes of a character behind its first. -/
def readOctets : Nat → List Char → Except Fault (Tag × List Char)
  | 0, rest => .ok ([], rest)
  | more + 1, rest => do
    let (octet, rest) ← readOctet rest
    if octet / 64 ≠ 2 then .error .token
    let (octets, rest) ← readOctets more rest
    .ok (octet.toUInt8 :: octets, rest)

/-- The bytes of an escaped character. -/
def readEscape (rest : List Char) : Except Fault (Tag × List Char) := do
  let (octet, rest) ← readOctet rest
  if width octet = 0 then .error .token
  let (octets, rest) ← readOctets (width octet - 1) rest
  .ok (octet.toUInt8 :: octets, rest)

/-- The longest text of tag characters, escapes decoded; `fuel` bounds the number of characters. -/
def read (verbatim : Bool) : Nat → List Char → Except Fault (Tag × List Char)
  | 0, rest => .ok ([], rest)
  | fuel + 1, rest =>
    match rest with
    | [] => .ok ([], [])
    | c :: tail =>
      if !isTagChar verbatim c then .ok ([], rest)
      else do
        let (octets, rest) ← if c = '%' then readEscape rest else .ok (ofText [c], tail)
        let (more, rest) ← read verbatim fuel rest
        .ok (octets ++ more, rest)

end Tag

end SchemaForms.Yaml
