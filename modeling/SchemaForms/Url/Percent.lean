import SchemaForms.Text.Numeral

/-!
# Url/Percent — percent-encoding

A character that must not appear as itself is written as the bytes of its UTF-8 form, each as a
percent sign and two hexadecimal digits.  Which characters must not appear depends on the part of the
URL; the sets grow from the fragment to the single segment.
-/

namespace SchemaForms.Percent

/-! ## Sets of characters -/

/-- Controls and everything beyond ASCII. -/
def isControl (c : Char) : Bool := decide (c.toNat < 0x20) || decide (0x7F ≤ c.toNat)

/-- Characters encoded in a fragment. -/
def inFragment (c : Char) : Bool :=
  isControl c || c = ' ' || c = '"' || c = '<' || c = '>' || c = '\x60'

/-- Characters encoded in a path. -/
def inPath (c : Char) : Bool := inFragment c || c = '#' || c = '?' || c = '\x7b' || c = '\x7d'

/-- Characters encoded in a single segment of a path; a backslash separates segments in some
schemes. -/
def inSegment (backslash : Bool) (c : Char) : Bool :=
  inPath c || c = '/' || c = '%' || (backslash && c = '\\')

/-- Characters encoded in a query; an apostrophe in some schemes. -/
def inQuery (apostrophe : Bool) (c : Char) : Bool :=
  isControl c || c = ' ' || c = '"' || c = '#' || c = '<' || c = '>' || (apostrophe && c = '\'')

/-- Characters encoded in a user name or password. -/
def inUser (c : Char) : Bool :=
  inPath c || c = '/' || c = ':' || c = ';' || c = '=' || c = '@' || c = '[' || c = '\\' ||
    c = ']' || c = '^' || c = '|'

/-! ## Encoding -/

/-- An upper case hexadecimal digit. -/
def hexDigit (d : Nat) : Char := Char.ofNat (if d < 10 then 48 + d else 55 + d)

/-- A byte, encoded. -/
def byte (b : UInt8) : List Char := ['%', hexDigit (b.toNat / 16), hexDigit (b.toNat % 16)]

/-- A character, encoded whatever it is. -/
def char (c : Char) : List Char := (String.utf8EncodeChar c).flatMap byte

/-- A text with the characters of a set encoded. -/
def encode (mustEncode : Char → Bool) (text : List Char) : List Char :=
  text.flatMap fun c => if mustEncode c then char c else [c]

/-! ## Decoding -/

/-- The bytes that a text stands for; a percent sign without two digits stands for itself. -/
def decode : List Char → List UInt8
  | '%' :: hi :: lo :: after =>
    match Numeral.digit? 16 hi, Numeral.digit? 16 lo with
    | some h, some l => (16 * h + l).toUInt8 :: decode after
    | _, _ => String.utf8EncodeChar '%' ++ decode (hi :: lo :: after)
  | c :: rest => String.utf8EncodeChar c ++ decode rest
  | [] => []

/-- The text that a text stands for, if its bytes are well-formed. -/
def decodeText? (text : List Char) : Option (List Char) :=
  (String.fromUTF8? ⟨(decode text).toArray⟩).map String.toList

end SchemaForms.Percent
