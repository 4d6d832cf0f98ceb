import SchemaForms.CommandLine.Complaint
import SchemaForms.Text.Similarity

/-!
# CommandLine/Scan — the arguments of a form

The arguments are taken one after the other.  An option takes its value from the next argument, or
after an equals sign; a letter also takes what follows it.  Two dashes end the options.  A value that
stands in an argument of its own is not looked at before the next option, the next operand, the next
switch or the end: of two faults the user is told the one that is met first in this sense.
-/

namespace SchemaForms.CommandLine

open SchemaForms.Text (similarName? similarNames)

/-- Why no command is carried out. -/
inductive Refusal where
  /-- The arguments make no sense. -/
  | misuse (complaint : Complaint)
  /-- A form is explained, because that was asked for or for want of arguments. -/
  | help (form : Form) (isAsked : Bool)
  /-- The user asks for the version. -/
  | version

/-- What a switch asks for. -/
def Switch.refusal (switch : Switch) (form : Form) : Refusal :=
  match switch with
  | .help => .help form true
  | .version => .version

/-- A value that was not looked at; there is none while an option waits for it. -/
structure Pending where
  slot : Slot
  value : Option String

/-- How far the arguments of a form have been read. -/
structure Scan where
  form : Form
  /-- The values by the labels of their slots. -/
  values : Table String
  pending : Option Pending
  hasOperand : Bool
  /-- Whether the options are over. -/
  isLiteral : Bool

namespace Scan

/-- Nothing has been read. -/
def start (form : Form) : Scan := ⟨form, [], none, false, false⟩

/-- Whether an option waits for its value. -/
def isAwaiting (scan : Scan) : Bool := scan.pending.any (·.value.isNone)

/-- The labels of the options that were given. -/
def given (scan : Scan) : List String :=
  (Table.keys scan.values).filter fun label => scan.form.operand.all (·.label ≠ label)

/-! ## Complaints -/

/-- A complaint that shows how the form is used in general. -/
def complain (scan : Scan) (cause : Cause) (hint : Option Hint) : Complaint :=
  ⟨scan.form, cause, hint, some scan.form.usage⟩

/-- A complaint about the value of a slot. -/
def invalid (scan : Scan) (value : String) (slot : Slot) : Complaint :=
  ⟨scan.form, .invalid value slot, (similarName? value slot.kind.words).map .value, none⟩

/-- A complaint about a switch that comes with a value. -/
def surplusValue (scan : Scan) (value : String) (switch : Switch) : Complaint :=
  ⟨scan.form, .surplus value switch, none,
    some (scan.form.usageWith (scan.given ++ [switch.label]))⟩

/-- A complaint that the operand is missing. -/
def missing (scan : Scan) (operand : Operand) : Complaint :=
  ⟨scan.form, .missing operand, none, some (scan.form.usageWith scan.given)⟩

/-- A command named later on that has an option of a similar name. -/
def behind? (scan : Scan) (name : String) (later : List String) : Option Hint :=
  later.findSome? fun word => do
    let verb ← scan.form.verb? word
    let similar ← similarName? name (Table.keys verb.form.options)
    return .behind verb similar

/-- The hint that an argument can be an operand, if the form has one. -/
def asOperand? (scan : Scan) (argument : String) : Option Hint :=
  scan.form.operand.map fun _ => .asOperand argument

/-- A complaint about the name of an option. -/
def unknownName (scan : Scan) (name : String) (later : List String) : Complaint :=
  let argument := "--" ++ name
  let similar? := similarName? name (Table.keys scan.form.options)
  let hint := match similar? with
    | some similar => some (.option similar)
    | none => (scan.behind? name later).or (scan.asOperand? argument)
  let meant := (similar?.bind (Table.get? scan.form.options)).filter (!scan.given.contains ·)
  ⟨scan.form, .unexpected argument, hint,
    some (scan.form.usageFor (scan.given ++ meant.toList))⟩

/-- A complaint about the letter of an option. -/
def unknownLetter (scan : Scan) (letter : Char) : Complaint :=
  let argument := s!"-{letter}"
  scan.complain (.unexpected argument) (scan.asOperand? argument)

/-- A complaint about an argument that is no option and has no place. -/
def surplus (scan : Scan) (argument : String) : Complaint :=
  if scan.form.verbs.isEmpty then scan.complain (.unexpected argument) none
  else match scan.form.verb? argument with
    | some verb => scan.complain (.unexpected argument) (some (.withoutDashes verb))
    | none =>
      let similar := similarNames argument (scan.form.verbs.map Verb.name)
      scan.complain (.unknownCommand argument)
        (if similar.isEmpty then none else some (.commands similar))

/-! ## Values -/

/-- What is wrong with a value for a slot. -/
def fault? (scan : Scan) (slot : Slot) (value : String) : Option Complaint :=
  if Table.contains scan.values slot.label then some (scan.complain (.repeated slot) none)
  else if slot.kind.admits value then none
  else some (scan.invalid value slot)

/-- Keeps a value; a slot that is given again is given no more. -/
def put (scan : Scan) (slot : Slot) (value : String) : Scan :=
  { scan with
    values :=
      if Table.contains scan.values slot.label then Table.erase scan.values slot.label
      else Table.insert scan.values slot.label value }

/-- Takes a value. -/
def accept (scan : Scan) (slot : Slot) (value : String) : Except Refusal Scan :=
  match scan.fault? slot value with
  | some complaint => .error (.misuse complaint)
  | none => .ok (scan.put slot value)

/-- Looks at the value that was not looked at. -/
def settle (scan : Scan) : Except Refusal Scan :=
  let settled := { scan with pending := none }
  match scan.pending with
  | none => .ok settled
  | some ⟨slot, none⟩ => .error (.misuse (scan.invalid "" slot))
  | some ⟨slot, some value⟩ => settled.accept slot value

/-- Keeps the value that was not looked at, whatever it is. -/
def close (scan : Scan) : Scan :=
  let closed := { scan with pending := none }
  match scan.pending with
  | some ⟨slot, some value⟩ => closed.put slot value
  | _ => closed

/-! ## Arguments -/

/-- Takes an option with its value, or waits for that. -/
def option (scan : Scan) (flag : Flag) (value : Option String) : Except Refusal Scan := do
  let scan ← scan.settle
  match value with
  | some value => scan.accept flag.slot value
  | none => return { scan with pending := some ⟨flag.slot, none⟩ }

/-- Takes the name of an option with what follows the equals sign; `later` are the arguments to come. -/
def named (scan : Scan) (name : String) (value : Option String) (later : List String) :
    Except Refusal Scan :=
  match scan.form.flags.find? (·.name = name), scan.form.switches.find? (·.name = name), value with
  | some flag, _, _ => scan.option flag value
  | none, some switch, none => do
    let _ ← scan.settle
    .error (switch.refusal scan.form)
  | none, some switch, some value => .error (.misuse (scan.surplusValue value switch))
  | none, none, _ => .error (.misuse (scan.close.unknownName name later))

/-- Takes the letter of an option with the value that follows it. -/
def lettered (scan : Scan) (letter : Char) (value : Option String) : Except Refusal Scan :=
  match scan.form.flags.find? (·.letter = some letter),
      scan.form.switches.find? (·.letter = letter) with
  | some flag, _ => scan.option flag value
  | none, some switch => do
    let _ ← scan.settle
    .error (switch.refusal scan.form)
  | none, none => .error (.misuse (scan.unknownLetter letter))

/-- Takes an argument that is no option. -/
def plain (scan : Scan) (argument : String) : Except Refusal Scan :=
  match scan.form.operand with
  | some operand =>
    if scan.hasOperand then .error (.misuse (scan.surplus argument))
    else do
      let scan ← scan.settle
      return { scan with
        pending := some ⟨operand.toSlot, some argument⟩
        hasOperand := true }
  | none => .error (.misuse (scan.surplus argument))

/-- What follows an equals sign. -/
def afterEquals : List Char → Option String
  | '=' :: rest => some (String.ofList rest)
  | _ => none

/-- The value that follows a letter, with or without an equals sign. -/
def afterLetter : List Char → Option String
  | [] => none
  | '=' :: rest => some (String.ofList rest)
  | rest => some (String.ofList rest)

/-- Takes an argument; `later` are those to come. -/
def take (scan : Scan) (argument : String) (later : List String) : Except Refusal Scan :=
  if scan.isLiteral then scan.plain argument
  else match argument.toList, scan.pending with
    | ['-', '-'], _ => .ok { scan with isLiteral := true }
    | '-' :: '-' :: rest, _ =>
      scan.named (String.ofList (rest.takeWhile (· ≠ '=')))
        (afterEquals (rest.dropWhile (· ≠ '='))) later
    | '-' :: letter :: rest, _ => scan.lettered letter (afterLetter rest)
    | _, some ⟨slot, none⟩ => .ok { scan with pending := some ⟨slot, some argument⟩ }
    | _, _ => scan.plain argument

/-- The command that an argument names, where one can stand. -/
def command? (scan : Scan) (argument : String) : Option Verb :=
  if scan.isLiteral || scan.isAwaiting then none else scan.form.verb? argument

/-- Takes the arguments up to a command, which comes with the rest of them. -/
def read : Scan → List String → Except Refusal (Scan × Option (Verb × List String))
  | scan, [] => .ok (scan, none)
  | scan, argument :: later =>
    match scan.command? argument with
    | some verb => .ok (scan, some (verb, later))
    | none => do (← scan.take argument later).read later

/-! ## Results -/

/-- The value of an option. -/
def value? (scan : Scan) (flag : Flag) : Option String :=
  Table.get? scan.values flag.slot.label

/-- The format that an option names; without it, YAML is meant. -/
def format (scan : Scan) (flag : Flag) : Format :=
  ((scan.value? flag).bind fun name => formats.find? (·.name = name)).getD .yaml

/-- The value that stands on its own. -/
def operand (scan : Scan) (operand : Operand) : Except Refusal String :=
  match Table.get? scan.values operand.label with
  | some value => .ok value
  | none => .error (.misuse (scan.missing operand))

end Scan

end SchemaForms.CommandLine
