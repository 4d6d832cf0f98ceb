import SchemaForms.Format
import SchemaForms.Table

/-!
# CommandLine/Form — what can follow the name of the program

The program takes options and then a command, and a command takes options and at most one operand.
Each of them is a form, and what the user is told about it is drawn from there: `Form.usage` is the
line that shows how it is used.
-/

namespace SchemaForms.CommandLine

/-! ## Values -/

/-- What a value can be. -/
inductive ValueKind where
  | text
  /-- The name of a file, which is not empty. -/
  | file
  /-- One of these words. -/
  | choice (words : List String)

/-- The words among which a value is chosen, if it is. -/
def ValueKind.words : ValueKind → List String
  | .text | .file => []
  | .choice words => words

/-- Whether a text is such a value. -/
def ValueKind.admits : ValueKind → String → Bool
  | .text, _ => true
  | .file, value => !value.isEmpty
  | .choice words, value => words.contains value

/-- The formats. -/
def formats : List Format := [.json, .yaml]

/-- The name of a format. -/
def ValueKind.format : ValueKind := .choice (formats.map Format.name)

/-- Where a value goes, as the user is shown it. -/
structure Slot where
  label : String
  kind : ValueKind

/-! ## Options, switches and operands -/

/-- An option, which takes a value. -/
structure Flag where
  name : String
  letter : Option Char
  kind : ValueKind
  /-- The value that is meant when the option is not given. -/
  standard : Option String
  explanation : String

/-- The word that stands for the value of an option. -/
def Flag.placeholder (flag : Flag) : String :=
  String.ofList (flag.name.toList.map fun c => if c = '-' then '_' else c.toUpper)

/-- Where the value of an option goes. -/
def Flag.slot (flag : Flag) : Slot := ⟨s!"--{flag.name} <{flag.placeholder}>", flag.kind⟩

/-- An option without a value, which asks for a text in place of a command. -/
inductive Switch where
  | help
  | version

namespace Switch

/-- The name of a switch. -/
def name : Switch → String
  | .help => "help"
  | .version => "version"

/-- The letter of a switch. -/
def letter : Switch → Char
  | .help => 'h'
  | .version => 'V'

/-- What a switch is for. -/
def explanation : Switch → String
  | .help => "Print help"
  | .version => "Print version"

/-- A switch as the user is shown it. -/
def label (switch : Switch) : String := "--" ++ switch.name

end Switch

/-- A value that stands on its own. -/
structure Operand extends Slot where
  explanation : String

/-! ## Commands -/

/-- The name of a command. -/
inductive Verb where
  | convert
  | render
  | blocks
  | execute
  | help

namespace Verb

/-- All commands, in the order in which they are listed. -/
def all : List Verb := [.convert, .render, .blocks, .execute, .help]

/-- The name of a command as the user writes it. -/
def name : Verb → String
  | .convert => "convert"
  | .render => "render"
  | .blocks => "blocks"
  | .execute => "execute"
  | .help => "help"

/-- What a command is for. -/
def explanation : Verb → String
  | .convert => "Convert a document between JSON and YAML"
  | .render => "Render the editor widget tree for a document"
  | .blocks => "List the blocks available for a category"
  | .execute => "Run a document in the backend playground"
  | .help => "Print this message or the help of the given subcommand(s)"

end Verb

namespace Flag

/-- The option that names the backend. -/
def apiUrl : Flag :=
  ⟨"api-url", none, .text, none,
    "Base URL of the automation backend (overrides BLOCKFORM_API_URL)"⟩

/-- The option that names the cache policy. -/
def cachePolicy : Flag :=
  ⟨"cache-policy", none, .choice ["reuse", "refetch"], none,
    "Schema cache policy (overrides BLOCKFORM_CACHE_POLICY)"⟩

/-- The option that names the format a document is converted to. -/
def target : Flag := ⟨"to", none, .format, some Format.yaml.name, "Output format"⟩

/-- The option that names the file for the output. -/
def output : Flag := ⟨"output", some 'o', .file, none, "Write to this file instead of stdout"⟩

/-- The option that names the catalog of a form. -/
def formCatalog : Flag :=
  ⟨"catalog", none, .file, none,
    "Catalog file (\x60\x7b\"root\": ..., \"blocks\": \x7b...\x7d\x7d\x60); " ++
      "the backend is used when omitted"⟩

/-- The option that names the document of a form. -/
def document : Flag := ⟨"document", none, .file, none, "Automation document to load into the editor"⟩

/-- The option with the text that blocks are sought by. -/
def query : Flag :=
  ⟨"query", some 'q', .text, none,
    "Only show blocks whose label, name or description contains this text"⟩

/-- The option that names the catalog of blocks. -/
def blockCatalog : Flag :=
  ⟨"catalog", none, .file, none, "Catalog file; the backend is used when omitted"⟩

/-- The option that names the format a document is submitted in. -/
def format : Flag :=
  ⟨"format", none, .format, some Format.yaml.name, "Format the document is submitted in"⟩

/-- The option that names the file with the inputs. -/
def inputs : Flag :=
  ⟨"inputs", none, .file, none, "JSON or YAML file holding the playground inputs"⟩

/-- The options that stand before a command, and behind any that does work. -/
def common : List Flag := [apiUrl, cachePolicy]

end Flag

namespace Operand

/-- The document that is converted. -/
def input : Operand := ⟨⟨"<INPUT>", .file⟩, "Input file; the format is taken from the extension"⟩

/-- The kind of the blocks that are listed. -/
def category : Operand :=
  ⟨⟨"<CATEGORY>", .text⟩, "One of: variable, trigger, condition, action, result"⟩

/-- The document that is executed. -/
def document : Operand := ⟨⟨"<DOCUMENT>", .file⟩, "Automation document to run"⟩

/-- The commands that help is sought on. -/
def topics : Operand := ⟨⟨"[COMMAND]...", .text⟩, "Print help for the subcommand(s)"⟩

end Operand

/-! ## Forms -/

/-- What can follow the words that lead to it. -/
structure Form where
  words : String
  explanation : String
  /-- The options of its own. -/
  own : List Flag
  /-- The options that it shares. -/
  shared : List Flag
  switches : List Switch
  operand : Option Operand
  verbs : List Verb

/-- The name of the program. -/
def programName : String := "blockform-cli"

/-- The form of a command. -/
def Verb.form (verb : Verb) : Form :=
  let words := s!"{programName} {verb.name}"
  match verb with
  | .convert =>
    ⟨words, verb.explanation, [.target, .output], Flag.common, [.help], some .input, []⟩
  | .render =>
    ⟨words, verb.explanation, [.formCatalog, .document], Flag.common, [.help], none, []⟩
  | .blocks =>
    ⟨words, verb.explanation, [.query, .blockCatalog], Flag.common, [.help], some .category, []⟩
  | .execute =>
    ⟨words, verb.explanation, [.format, .inputs], Flag.common, [.help], some .document, []⟩
  | .help => ⟨words, verb.explanation, [], [], [], some .topics, []⟩

namespace Form

/-- The form of the program. -/
def program : Form :=
  ⟨programName, "A schema-driven editing engine for block-based automation definitions", Flag.common,
    [], [.help, .version], none, Verb.all⟩

/-- The options that take a value. -/
def flags (form : Form) : List Flag := form.own ++ form.shared

/-- All options and switches by their names, each as the user is shown it. -/
def options (form : Form) : Table String :=
  form.flags.map (fun flag => (flag.name, flag.slot.label)) ++
    form.switches.map fun switch => (switch.name, switch.label)

/-- The command of a name. -/
def verb? (form : Form) (name : String) : Option Verb := form.verbs.find? (·.name = name)

/-- What has to follow the options. -/
def tail (form : Form) : List String :=
  (form.operand.map (·.label)).toList ++ (if form.verbs.isEmpty then [] else ["<COMMAND>"])

/-- How a form is used with these options. -/
def usageWith (form : Form) (labels : List String) : String :=
  "Usage: " ++ " ".intercalate (form.words :: labels ++ form.tail)

/-- How a form is used. -/
def usage (form : Form) : String :=
  form.usageWith (if form.flags.isEmpty then [] else ["[OPTIONS]"])

/-- How a form is used with these options, or in general if there are none. -/
def usageFor (form : Form) (labels : List String) : String :=
  if labels.isEmpty then form.usage else form.usageWith labels

end Form

end SchemaForms.CommandLine
