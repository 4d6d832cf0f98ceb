import SchemaForms.Json.Literal

/-!
# Json/Reader — JSON text to document values

The reader follows the grammar, with a bound of 127 on open brackets.  Members of an object are
written into a table in the order of the text, so a repeated key keeps its first place and its last
value.  `fuel` bounds the steps; twice the length of the text is always enough.
-/

namespace SchemaForms.Json

/-- White space between the tokens of JSON text. -/
def isSpace (c : Char) : Bool := c = ' ' || c = '\n' || c = '\t' || c = '\r'

/-- Drops white space. -/
def skipSpace (text : List Char) : List Char := text.dropWhile isSpace

/-- Reads the rest of a keyword. -/
def readWord (value : Value) : List Char → List Char → Except Failure (Value × List Char)
  | [], rest => .ok (value, rest)
  | _ :: _, [] => .error ⟨.endInValue, 0⟩
  | expected :: word, c :: rest =>
    if c = expected then readWord value word rest
    else .error (.ahead .expectedWord (c :: rest) 1)

/-- How many brackets may be open, plus one. -/
def depthLimit : Nat := 128

/-- The position before a further element: the text from its first character on, or nothing when the
sequence ends here. -/
def nextItem (first : Bool) (text : List Char) : Except Failure (Option (List Char)) :=
  match skipSpace text with
  | [] => .error ⟨.endInList, 0⟩
  | ']' :: _ => .ok none
  | c :: rest =>
    if first then .ok (some (c :: rest))
    else if c = ',' then
      match skipSpace rest with
      | [] => .error ⟨.endInValue, 0⟩
      | ']' :: rest => .error (.ahead .trailingComma (']' :: rest) 1)
      | rest => .ok (some rest)
    else .error (.ahead .expectedCommaOrBracket (c :: rest) 1)

/-- The position inside the key of a further member, behind its opening quote, or nothing when the
object ends here. -/
def nextKey (first : Bool) (text : List Char) : Except Failure (Option (List Char)) :=
  match skipSpace text with
  | [] => .error ⟨.endInObject, 0⟩
  | '}' :: _ => .ok none
  | c :: rest =>
    if first then
      if c = '"' then .ok (some rest) else .error (.ahead .keyNotText (c :: rest) 1)
    else if c = ',' then
      match skipSpace rest with
      | [] => .error ⟨.endInValue, 0⟩
      | '"' :: rest => .ok (some rest)
      | '}' :: rest => .error (.ahead .trailingComma ('}' :: rest) 1)
      | rest => .error (.ahead .keyNotText rest 1)
    else .error (.ahead .expectedCommaOrBrace (c :: rest) 1)

/-- Reads the colon between key and value. -/
def readColon (text : List Char) : Except Failure (List Char) :=
  match skipSpace text with
  | [] => .error ⟨.endInObject, 0⟩
  | ':' :: rest => .ok rest
  | rest => .error (.ahead .expectedColon rest 1)

mutual

/-- Reads a value; `room` brackets may still be opened, less one. -/
def readValue (fuel room : Nat) (text : List Char) : Except Failure (Value × List Char) :=
  match fuel with
  | 0 => .error ⟨.endInValue, 0⟩
  | fuel + 1 =>
    match skipSpace text with
    | [] => .error ⟨.endInValue, 0⟩
    | 'n' :: rest => readWord .null ['u', 'l', 'l'] rest
    | 't' :: rest => readWord (.bool true) ['r', 'u', 'e'] rest
    | 'f' :: rest => readWord (.bool false) ['a', 'l', 's', 'e'] rest
    | '-' :: rest => (readNumber true rest).map fun (n, rest) => (.num n, rest)
    | '"' :: rest => (readString 0 rest).map fun (s, rest) => (.str (String.ofList s), rest)
    | '[' :: rest =>
      if room ≤ 1 then .error (.ahead .tooDeep ('[' :: rest) 1)
      else (readItems fuel (room - 1) true rest).map fun (items, rest) => (.arr items, rest)
    | '{' :: rest =>
      if room ≤ 1 then .error (.ahead .tooDeep ('{' :: rest) 1)
      else (readMembers fuel (room - 1) true rest).map fun (writes, rest) =>
        (.obj (Table.ofWrites writes), rest)
    | c :: rest =>
      if Numeral.isDigit c then (readNumber false (c :: rest)).map fun (n, rest) => (.num n, rest)
      else .error (.ahead .expectedValue (c :: rest) 1)

/-- Reads the elements of a sequence and its closing bracket. -/
def readItems (fuel room : Nat) (first : Bool) (text : List Char) :
    Except Failure (List Value × List Char) :=
  match fuel with
  | 0 => .error ⟨.endInList, 0⟩
  | fuel + 1 => do
    match ← nextItem first text with
    | none => .ok ([], (skipSpace text).drop 1)
    | some text =>
      let (item, rest) ← readValue fuel room text
      let (items, rest) ← readItems fuel room false rest
      .ok (item :: items, rest)

/-- Reads the members of an object, in the order of the text, and its closing brace. -/
def readMembers (fuel room : Nat) (first : Bool) (text : List Char) :
    Except Failure (List (String × Value) × List Char) :=
  match fuel with
  | 0 => .error ⟨.endInObject, 0⟩
  | fuel + 1 => do
    match ← nextKey first text with
    | none => .ok ([], (skipSpace text).drop 1)
    | some text =>
      let (key, rest) ← readString 0 text
      let rest ← readColon rest
      let (value, rest) ← readValue fuel room rest
      let (members, rest) ← readMembers fuel room false rest
      .ok ((String.ofList key, value) :: members, rest)

end

/-- Reads a whole text. -/
def readText (text : List Char) : Except Failure Value := do
  let (value, rest) ← readValue (2 * text.length + 2) depthLimit text
  match skipSpace rest with
  | [] => .ok value
  | rest => .error (.ahead .trailingText rest 1)

/-- Reads a whole text; the error is the message with its place. -/
def parse (text : String) : Except String Value :=
  match readText text.toList with
  | .ok value => .ok value
  | .error failure => .error (failure.describe text.toList)

end SchemaForms.Json
