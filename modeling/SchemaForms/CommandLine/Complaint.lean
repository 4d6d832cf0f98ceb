import SchemaForms.CommandLine.Form

/-!
# CommandLine/Complaint — what is wrong with the arguments

A complaint names a cause, may hint at what was meant, and shows how the form at hand is used where
that helps.  `Complaint.message` is the one place where it becomes a text.
-/

namespace SchemaForms.CommandLine

/-- What is wrong. -/
inductive Cause where
  /-- An argument has no place. -/
  | unexpected (argument : String)
  /-- A value cannot go there; an empty one counts as none. -/
  | invalid (value : String) (slot : Slot)
  /-- A value was given before. -/
  | repeated (slot : Slot)
  /-- A switch comes with a value. -/
  | surplus (value : String) (switch : Switch)
  | unknownCommand (name : String)
  /-- An operand is missing. -/
  | missing (operand : Operand)
  /-- There is no command. -/
  | noCommand (form : Form)

/-- Words that the user can choose from. -/
def wordList (title : String) (words : List String) : String :=
  if words.isEmpty then "" else s!"\n  [{title}: " ++ ", ".intercalate words ++ "]"

/-- The wording of a cause. -/
def Cause.message : Cause → String
  | .unexpected argument => s!"unexpected argument '{argument}' found"
  | .invalid value ⟨label, kind⟩ =>
    (if value.isEmpty then s!"a value is required for '{label}' but none was supplied"
      else s!"invalid value '{value}' for '{label}'") ++ wordList "possible values" kind.words
  | .repeated ⟨label, _⟩ => s!"the argument '{label}' cannot be used multiple times"
  | .surplus value switch =>
    s!"unexpected value '{value}' for '{switch.label}' found; no more were expected"
  | .unknownCommand name => s!"unrecognized subcommand '{name}'"
  | .missing operand => s!"the following required arguments were not provided:\n  {operand.label}"
  | .noCommand form =>
    s!"'{form.words}' requires a subcommand but one was not provided" ++
      wordList "subcommands" (form.verbs.map Verb.name)

/-- What the user may have meant. -/
inductive Hint where
  /-- A value of that spelling. -/
  | value (similar : String)
  /-- An option of that spelling. -/
  | option (similar : String)
  /-- One of the commands of that spelling. -/
  | commands (similar : List String)
  /-- An option behind a command. -/
  | behind (verb : Verb) (option : String)
  /-- A command, which two dashes keep from being one. -/
  | withoutDashes (verb : Verb)
  /-- An operand that looks like an option. -/
  | asOperand (argument : String)

/-- The wording of a hint. -/
def Hint.message : Hint → String
  | .value similar => s!"a similar value exists: '{similar}'"
  | .option similar => s!"a similar argument exists: '--{similar}'"
  | .commands similar =>
    (if similar.length = 1 then "a similar subcommand exists: "
      else "some similar subcommands exist: ") ++
      ", ".intercalate (similar.map fun name => s!"'{name}'")
  | .behind verb name => s!"'{verb.name} --{name}' exists"
  | .withoutDashes verb =>
    s!"subcommand '{verb.name}' exists; to use it, remove the '--' before it"
  | .asOperand argument => s!"to pass '{argument}' as a value, use '-- {argument}'"

/-- What is wrong with the arguments of a form. -/
structure Complaint where
  form : Form
  cause : Cause
  hint : Option Hint
  /-- How the form is used, if that is shown. -/
  usage : Option String

/-- The wording of a complaint; a form that can be explained is offered to be. -/
def Complaint.message (complaint : Complaint) : String :=
  let hint := match complaint.hint with
    | some hint => s!"\n\n  tip: {hint.message}"
    | none => ""
  let usage := match complaint.usage with
    | some usage => s!"\n\n{usage}"
    | none => ""
  let offer := if complaint.form.switches.isEmpty then "" else "\n\nFor more information, try '--help'."
  s!"error: {complaint.cause.message}{hint}{usage}{offer}\n"

end SchemaForms.CommandLine
