import SchemaForms.Json.Writer
import SchemaForms.Text.Escaped

/-!
# Decode — typed reading of document values

A value that comes from outside is read as a record, a list or a choice.  A record is read from an
object, where unknown keys are ignored and the fields are checked in the order of the object, or from
a sequence in the order of declaration.  An error says what was found and what was expected.  What is
well-formed may still not be accepted for the keys that it has or lacks (`ValidationError`).
-/

namespace SchemaForms

/-- Why something that was entered is not accepted. -/
inductive ValidationError where
  | missingKey (key : String)
  | duplicateKey (key : String)
  | emptyKey
  deriving DecidableEq

/-- The wording of the error. -/
def ValidationError.message : ValidationError → String
  | .missingKey key => s!"Required key '{key}' is missing"
  | .duplicateKey key => s!"Key '{key}' already exists"
  | .emptyKey => "Key must not be empty"

/-- Why a value is not of the expected form. -/
inductive DecodeError where
  | wrongType (found : Value) (expected : String)
  | missingField (name : String)
  | wrongLength (length : Nat) (expected : String)
  | unknownChoice (name : String) (choices : List String)
  | notOneKey
  deriving DecidableEq

namespace DecodeError

/-- A double as it is shown in an error: as in JSON text. -/
def doubleText (bits : UInt64) : String := String.ofList (Decimal.Layout.json.text bits)

/-- What was found. -/
def describe : Value → String
  | .null => "null"
  | .bool b => s!"boolean `{b}`"
  | .num (.int n) => s!"integer `{n}`"
  | .num (.float bits) => s!"floating point `{doubleText bits}`"
  | .str s => "string " ++ String.ofList (Text.quoted s.toList)
  | .arr _ => "sequence"
  | .obj _ => "map"

/-- The choices there are. -/
def listChoices (choices : List String) : String :=
  match choices with
  | [a, b] => s!"`{a}` or `{b}`"
  | _ => "one of " ++ ", ".intercalate (choices.map fun choice => s!"`{choice}`")

/-- The wording of the error. -/
def message : DecodeError → String
  | .wrongType found expected => s!"invalid type: {describe found}, expected {expected}"
  | .missingField name => s!"missing field `{name}`"
  | .wrongLength length expected => s!"invalid length {length}, expected {expected}"
  | .unknownChoice name choices => s!"unknown variant `{name}`, expected {listChoices choices}"
  | .notOneKey => "invalid value: map, expected map with a single key"

end DecodeError

namespace Decode

/-- A reader of values. -/
abbrev Reader (α : Type) := Value → Except DecodeError α

/-- Any value. -/
def any : Reader Value := .ok

/-- A text. -/
def text : Reader String
  | .str s => .ok s
  | found => .error (.wrongType found "a string")

/-- A boolean. -/
def boolean : Reader Bool
  | .bool b => .ok b
  | found => .error (.wrongType found "a boolean")

/-- A value that may be null. -/
def optional {α : Type} (reader : Reader α) : Reader (Option α)
  | .null => .ok none
  | found => (reader found).map some

/-- A list. -/
def list {α : Type} (reader : Reader α) : Reader (List α)
  | .arr items => items.mapM reader
  | found => .error (.wrongType found "a sequence")

/-- The members of an object. -/
def members : Reader (List (String × Value))
  | .obj members => .ok members
  | found => .error (.wrongType found "a map")

/-- A choice by name: the name itself, or an object with that one key and null. -/
def choice {α : Type} (choices : List (String × α)) : Reader α := fun found =>
  let named (name : String) : Except DecodeError α :=
    match Table.get? choices name with
    | some a => .ok a
    | none => .error (.unknownChoice name (Table.keys choices))
  match found with
  | .str name => named name
  | .obj [(name, content)] =>
    match named name with
    | .error e => .error e
    | .ok a => if content = .null then .ok a else .error (.wrongType content "unit")
  | .obj _ => .error .notOneKey
  | found => .error (.wrongType found "string or map")

/-! ## Records -/

/-- A field of a record: its name, the check of its value, and whether it must be there. -/
structure Field where
  name : String
  check : Value → Except DecodeError Unit
  required : Bool

/-- A field that must be there. -/
def needed {α : Type} (name : String) (reader : Reader α) : Field :=
  ⟨name, fun value => (reader value).map fun _ => (), true⟩

/-- A field with a default. -/
def defaulted {α : Type} (name : String) (reader : Reader α) : Field :=
  ⟨name, fun value => (reader value).map fun _ => (), false⟩

/-- Checks the members of an object in their order. -/
def checkMembers (fields : List Field) : List (String × Value) → Except DecodeError Unit
  | [] => .ok ()
  | (key, value) :: members =>
    match fields.find? (·.name = key) with
    | none => checkMembers fields members
    | some field =>
      match field.check value with
      | .error e => .error e
      | .ok () => checkMembers fields members

/-- The first required field that an object lacks. -/
def missing? (fields : List Field) (members : List (String × Value)) : Option Field :=
  fields.find? fun field => field.required && !Table.contains members field.name

/-- Pairs the fields with the items of a sequence; `index` fields went before. -/
def pairItems (expected : String) (index : Nat) :
    List Field → List Value → Except DecodeError (List (String × Value))
  | [], _ => .ok []
  | field :: fields, item :: items =>
    match field.check item with
    | .error e => .error e
    | .ok () => (pairItems expected (index + 1) fields items).map ((field.name, item) :: ·)
  | field :: fields, [] =>
    if field.required then .error (.wrongLength index expected)
    else pairItems expected (index + 1) fields []

/-- The fields of a record that are there. -/
def record (name : String) (fields : List Field) : Reader (List (String × Value))
  | .obj members =>
    match checkMembers fields members with
    | .error e => .error e
    | .ok () =>
      match missing? fields members with
      | some field => .error (.missingField field.name)
      | none => .ok members
  | .arr items =>
    match pairItems s!"struct {name} with {fields.length} elements" 0 fields items with
    | .error e => .error e
    | .ok pairs =>
      if fields.length < items.length then
        .error (.wrongLength items.length "fewer elements in array")
      else .ok pairs
  | found => .error (.wrongType found s!"struct {name}")

/-- The value of a required field. -/
def get {α : Type} (members : List (String × Value)) (name : String) (reader : Reader α) :
    Except DecodeError α :=
  match Table.get? members name with
  | some value => reader value
  | none => .error (.missingField name)

/-- The value of a field with a default. -/
def getD {α : Type} (members : List (String × Value)) (name : String) (reader : Reader α)
    (fallback : α) : Except DecodeError α :=
  match Table.get? members name with
  | some value => reader value
  | none => .ok fallback

end Decode

end SchemaForms
