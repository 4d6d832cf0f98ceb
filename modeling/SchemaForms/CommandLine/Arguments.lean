import SchemaForms.CommandLine.Scan
import SchemaForms.Config

/-!
# CommandLine/Arguments — what the user asks for

The first argument that is no option names the command.  The options that stand before it can be given
again behind it, and then that value counts.  In place of a command the user can ask for help or for
the version.
-/

namespace SchemaForms.CommandLine

/-- A command. -/
inductive Command where
  /-- Writes a document in a format, to a file or to the output. -/
  | convert (input : String) (target : Format) (output : Option String)
  /-- Shows the form of a document. -/
  | render (catalog document : Option String)
  /-- Lists the blocks of a kind. -/
  | blocks (category : String) (query catalog : Option String)
  /-- Executes a document in the playground. -/
  | execute (document : String) (format : Format) (inputs : Option String)

/-- What the user asks for. -/
structure Arguments where
  apiUrl : Option String
  policy : Option CachePolicy
  command : Command

/-! ## Help -/

/-- Help on a command; names lead there from a form. -/
def Form.guide : Form → List String → Refusal
  | form, [] => .help form true
  | form, name :: rest =>
    match form.verb? name with
    | some verb => verb.form.guide rest
    | none => .misuse ⟨form, .unknownCommand name, none, some form.usage⟩

/-! ## Commands -/

/-- The command of a name with what was read behind it. -/
def Verb.command (verb : Verb) (scan : Scan) : Except Refusal Command := do
  match verb with
  | .convert => return .convert (← scan.operand .input) (scan.format .target) (scan.value? .output)
  | .render => return .render (scan.value? .formCatalog) (scan.value? .document)
  | .blocks =>
    return .blocks (← scan.operand .category) (scan.value? .query) (scan.value? .blockCatalog)
  | .execute =>
    return .execute (← scan.operand .document) (scan.format .format) (scan.value? .inputs)
  | .help => .error (.help .program true)

/-- Why there is no command behind what was read: an explanation comes first. -/
def Scan.noCommand (scan : Scan) : Refusal :=
  if scan.values.isEmpty then .help scan.form false
  else .misuse (scan.complain (.noCommand scan.form) none)

/-- Reads the arguments; the error says what is wrong with them. -/
def Arguments.parse (arguments : List String) : Except Refusal Arguments := do
  match ← (Scan.start .program).read arguments with
  | (outer, none) => .error (← outer.settle).noCommand
  | (_, some (.help, topics)) => .error (Form.program.guide topics)
  | (outer, some (verb, rest)) =>
    let (inner, _) ← (Scan.start verb.form).read rest
    let inner ← inner.settle
    let command ← verb.command inner
    let outer ← outer.settle
    let value? := fun flag => (inner.value? flag).or (outer.value? flag)
    return {
      apiUrl := value? .apiUrl
      policy := (value? .cachePolicy).bind CachePolicy.ofText?
      command }

/-- The files that a command reads. -/
def Command.inputFiles : Command → List String
  | .convert input _ _ => [input]
  | .render catalog document => catalog.toList ++ document.toList
  | .blocks _ _ catalog => catalog.toList
  | .execute document _ inputs => document :: inputs.toList

/-- The settings with what the user asks for on top. -/
def Arguments.configure (arguments : Arguments) (config : Config) : Config :=
  { config with
    apiUrl := arguments.apiUrl.getD config.apiUrl
    policy := arguments.policy.getD config.policy }

end SchemaForms.CommandLine
