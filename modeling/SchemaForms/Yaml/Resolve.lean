import SchemaForms.Text.Numeral
import SchemaForms.Value.Basic
import SchemaForms.Yaml.Tag

/-!
# Yaml/Resolve — what a scalar means

A plain scalar is a null, a boolean, an integer, a float or, if it is none of these, a string.  The
writer asks the same question (`Plain.ofText`) to find out which strings need quotes.
-/

namespace SchemaForms.Yaml

/-- What a plain scalar is read as. -/
inductive Plain where
  | null
  | bool (b : Bool)
  | int (n : Int)
  /-- An integer beyond 64 bits, though not beyond 128. -/
  | wideInt
  /-- A double; infinities and NaN have no value. -/
  | float (bits : Option UInt64)
  | word
  deriving DecidableEq

namespace Plain

/-- The spellings of null, the empty text aside. -/
def isNull (text : List Char) : Bool :=
  ["null", "Null", "NULL", "~"].any (·.toList = text)

/-- The spellings of the booleans. -/
def bool? (text : List Char) : Option Bool :=
  if ["true", "True", "TRUE"].any (·.toList = text) then some true
  else if ["false", "False", "FALSE"].any (·.toList = text) then some false
  else none

/-- Drops one sign. -/
def dropSign : List Char → List Char
  | '+' :: rest | '-' :: rest => rest
  | text => text

/-- Digits with a leading zero, such as `017`, which are no number. -/
def isZeroPadded (text : List Char) : Bool :=
  match dropSign text with
  | '0' :: rest => !rest.isEmpty && rest.all Numeral.isDigit
  | _ => false

/-- Digits behind a radix mark. -/
def marked? : List Char → Option Nat
  | '0' :: 'x' :: rest => Numeral.natural? 16 rest
  | '0' :: 'o' :: rest => Numeral.natural? 8 rest
  | '0' :: 'b' :: rest => Numeral.natural? 2 rest
  | _ => none

/-- An integer without a minus sign. -/
def unsigned? (text : List Char) : Option Nat :=
  let body := match text with
    | '+' :: rest => rest
    | _ => text
  match marked? body with
  | some n => some n
  | none => if isZeroPadded text then none else Numeral.natural? 10 body

/-- An integer with a minus sign, as the size of it. -/
def negative? : List Char → Option Nat
  | '-' :: rest =>
    match marked? rest with
    | some n => some n
    | none => if isZeroPadded ('-' :: rest) then none else Numeral.natural? 10 rest
  | _ => none

/-- The integer that a text spells: within 64 bits, or within 128. -/
def integer? (text : List Char) : Option Plain :=
  match unsigned? text with
  | some n =>
    if Numeral.fitsUnsigned n then some (.int n)
    else if n < Numeral.unsignedBound * Numeral.unsignedBound then some .wideInt else none
  | none =>
    match negative? text with
    | some n =>
      if n ≤ Numeral.signedBound then some (.int (-(n : Int)))
      else if n ≤ Numeral.signedBound * Numeral.unsignedBound then some .wideInt else none
    | none => none

/-- The double that a text spells. -/
def float? (text : List Char) : Option (Option UInt64) :=
  let unsigned := match text with
    | '+' :: rest => rest
    | _ => text
  if [".inf", ".Inf", ".INF"].any (·.toList = unsigned) then some none
  else if ["-.inf", "-.Inf", "-.INF", ".nan", ".NaN", ".NAN"].any (·.toList = text) then some none
  else match text with
    | '+' :: '+' :: _ | '+' :: '-' :: _ => none
    | _ => (Numeral.double? unsigned).map some

/-- What a plain scalar is read as. -/
def ofText (text : List Char) : Plain :=
  if text.isEmpty || isNull text then .null
  else match bool? text with
    | some b => .bool b
    | none =>
      match integer? text with
      | some plain => plain
      | none =>
        if isZeroPadded text then .word
        else match float? text with
          | some bits => .float bits
          | none => .word

end Plain

/-- The value of a double; infinities and NaN are null. -/
def floatValue : Option UInt64 → Value
  | some bits => .num (.float bits)
  | none => .null

/-- The value of a plain scalar without a tag. -/
def plainValue (text : List Char) : Except Fault Value :=
  match Plain.ofText text with
  | .null => .ok .null
  | .bool b => .ok (.bool b)
  | .int n => .ok (.num (.int n))
  | .wideInt => .error .range
  | .float bits => .ok (floatValue bits)
  | .word => .ok (.str (String.ofList text))

/-- The value of a scalar.  The tags of null, booleans and numbers demand a text of their kind,
however it is written; any other tag makes a string, save one whose mark is not followed by a text,
which leaves a plain scalar as it is. -/
def scalarValue (tag : Option Tag) (plain : Bool) (text : List Char) : Except Fault Value :=
  match tag with
  | none => if plain then plainValue text else .ok (.str (String.ofList text))
  | some tag =>
    if tag.isLocal then .error .tag
    else if tag = .core "bool" then
      match Plain.bool? text with
      | some b => .ok (.bool b)
      | none => .error .tag
    else if tag = .core "int" then
      match Plain.integer? text with
      | some (.int n) => .ok (.num (.int n))
      | _ => .error .tag
    else if tag = .core "float" then
      match Plain.float? text with
      | some bits => .ok (floatValue bits)
      | none => .error .tag
    else if tag = .core "null" then
      if Plain.isNull text then .ok .null else .error .tag
    else if tag.isMarked && plain then plainValue text
    else .ok (.str (String.ofList text))

end SchemaForms.Yaml
