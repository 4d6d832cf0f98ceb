import SchemaForms.Backend.Client
import SchemaForms.Catalog.Picker
import SchemaForms.CommandLine.Arguments
import SchemaForms.Render.Outline
import SchemaForms.Session.Hydration

/-!
# CommandLine/Report — what a command does

A command is a function of its files and of what the backend answers.  It leaves a report: what is
written to the output, a file to be written, and an error that ends the program.
-/

namespace SchemaForms.CommandLine

/-- The files of a command: the text of each, or why it cannot be read. -/
abbrev Files := List (String × Except String String)

/-- What a command leaves. -/
structure Report where
  /-- The output, given the time that the command took. -/
  output : String → String
  error : Option String
  /-- A file to be written before the output. -/
  file : Option (String × String)

namespace Report

/-- Nothing but an error. -/
def failed (message : String) : Report := ⟨fun _ => "", some message, none⟩

/-- Nothing but output. -/
def printed (output : String → String) : Report := ⟨output, none, none⟩

/-- A report whose file could not be written. -/
def refused (reason : String) : Report := failed reason

end Report

/-! ## Documents -/

/-- Why a name leads to no file. -/
inductive FileFault where
  | missing
  /-- The name goes on behind a file. -/
  | behindFile
  /-- The name leads to a folder. -/
  | folder
  /-- A part of the name is longer than a name can be. -/
  | tooLong
  deriving DecidableEq

/-- The wording of the reason. -/
def FileFault.message : FileFault → String
  | .missing => "No such file or directory (os error 2)"
  | .behindFile => "Not a directory (os error 20)"
  | .folder => "Is a directory (os error 21)"
  | .tooLong => "File name too long (os error 36)"

/-- The last part of the name of a file. -/
def lastPart (name : List Char) : List Char :=
  ((name.reverse.dropWhile (· = '/')).takeWhile (· ≠ '/')).reverse

/-- What follows the last full stop of a name, if something comes before it. -/
def extension? (name : List Char) : Option (List Char) :=
  match (lastPart name).reverse.dropWhile (· ≠ '.') with
  | _ :: _ :: _ => some ((lastPart name).reverse.takeWhile (· ≠ '.')).reverse
  | _ => none

/-- The format of a file, by its name. -/
def formatOf (name : String) : Format :=
  match extension? name.toList with
  | some ['y', 'a', 'm', 'l'] | some ['y', 'm', 'l'] => .yaml
  | _ => .json

/-- Reads a document from a file. -/
def readDocument (files : Files) (name : String) : Except String Value :=
  match (Table.get? files name).getD (.error FileFault.missing.message) with
  | .ok text => ((formatOf name).read text).mapError ParseError.message
  | .error reason => .error s!"could not read '{name}': {reason}"

/-- The catalog in a file, or the one of the backend. -/
def openCatalog {σ : Type} (config : Config) (files : Files) (transport : Transport σ) :
    Option String → Except String (Catalog.Source σ)
  | some name => do
    let document ← readDocument files name
    match Catalog.ofValue document with
    | .ok catalog => .ok catalog.source
    | .error e => .error e.message
  | none =>
    match Client.ofConfig config with
    | .ok client => .ok (client.source transport)
    | .error e => .error e.message

/-! ## Commands -/

/-- Writes a document in a format. -/
def convert (files : Files) (input : String) (target : Format) (output : Option String) : Report :=
  match readDocument files input, output with
  | .error e, _ => .failed e
  | .ok document, none => .printed fun _ => target.write document
  | .ok document, some name =>
    ⟨fun _ => s!"Wrote {target.name} to '{name}'\n", none, some (name, target.write document)⟩

/-- The document that is shown. -/
def shownDocument (files : Files) : Option String → Except String Value
  | some name => (readDocument files name).map fun document => .obj [("root", document)]
  | none => .ok .emptyObject

/-- The output for a form. -/
def formText (widget : Widget) (session : Session) (elapsed : String) : String :=
  Outline.format widget ++
    s!"\nRendered in {elapsed} ({session.registry.cache.size} cached schemas)\n"

/-- Shows the form of a document. -/
def showForm {σ : Type} (config : Config) (source : Catalog.Source σ) (document : Value)
    (state : σ) : Report :=
  match Session.openRoot source (.ofDocument config document) state with
  | (.error e, _, _) => .failed e.message
  | (.ok _, session, state) =>
    match Session.hydrate source Path.root session state with
    | (some widget, session, _) => .printed (formText widget session)
    | (none, _, _) => .failed "the catalog does not answer"

/-- Shows the form of a document from files. -/
def render {σ : Type} (config : Config) (files : Files) (transport : Transport σ) (state : σ)
    (catalog document : Option String) : Report :=
  match openCatalog config files transport catalog, shownDocument files document with
  | .error e, _ => .failed e
  | .ok _, .error e => .failed e
  | .ok source, .ok document => showForm config source document state

/-- A text filled up with blanks. -/
def padded (width : Nat) (text : String) : String :=
  text ++ String.ofList (List.replicate (width - text.length) ' ')

/-- The line of a block. -/
def blockLine (definition : Catalog.Definition) : String :=
  s!"  {padded 24 definition.name} {definition.displayLabel}" ++
    (match definition.description with
      | some description => s!" - {description}\n"
      | none => "\n")

/-- The output for a picker. -/
def pickerText (picker : Catalog.Picker) : String :=
  s!"{picker.visible.length} {picker.category.tag} block(s):\n" ++
    String.join (picker.visible.map blockLine)

/-- Lists the blocks of a kind. -/
def listBlocks {σ : Type} (config : Config) (files : Files) (transport : Transport σ) (state : σ)
    (tag : String) (query catalog : Option String) : Report :=
  match Category.ofTag? tag, openCatalog config files transport catalog with
  | none, _ => .failed (Category.unknownMessage tag)
  | some _, .error e => .failed e
  | some category, .ok source =>
    let picker := (Catalog.Picker.openFrom source category state).1
    match picker.error with
    | some e => .failed e.message
    | none =>
      .printed fun _ => pickerText { picker with query := query.getD "" }

/-- The inputs of an execution. -/
def readInputs (files : Files) : Option String → Except String (List (String × Value))
  | none => .ok []
  | some name => do
    match ← readDocument files name with
    | .obj inputs => .ok inputs
    | _ => .error s!"inputs in '{name}' must be an object"

/-- A part of an execution report under its heading. -/
def headed (heading : String) : Option Value → String
  | some value => s!"\n--- {heading} ---\n{Json.pretty value}\n"
  | none => ""

/-- The output for an execution report. -/
def reportText (report : ExecutionReport) (elapsed : String) : String :=
  (if report.executed then s!"Executed in {elapsed}\n" else "Not executed\n") ++
    headed "Result" report.result ++ headed "Trace" report.trace

/-- Executes a document. -/
def executeOn {σ : Type} (client : Client) (execution : Execution) (transport : Transport σ)
    (state : σ) : Report :=
  let opening := s!"Executing against {client.base.text}...\n"
  match ((client.execute execution).run transport state).2 with
  | .error e => ⟨fun _ => opening, some e.message, none⟩
  | .ok report => ⟨fun elapsed => opening ++ reportText report elapsed, report.error, none⟩

/-- Executes a document from files. -/
def execute {σ : Type} (config : Config) (files : Files) (transport : Transport σ) (state : σ)
    (document : String) (format : Format) (inputs : Option String) : Report :=
  match Client.ofConfig config, readDocument files document, readInputs files inputs with
  | .error e, _, _ => .failed e.message
  | .ok _, .error e, _ => .failed e
  | .ok _, .ok _, .error e => .failed e
  | .ok client, .ok document, .ok inputs =>
    executeOn client (.ofDocument document format inputs) transport state

/-- Carries a command out. -/
def perform {σ : Type} (command : Command) (config : Config) (files : Files)
    (transport : Transport σ) (state : σ) : Report :=
  match command with
  | .convert input target output => convert files input target output
  | .render catalog document => render config files transport state catalog document
  | .blocks tag query catalog => listBlocks config files transport state tag query catalog
  | .execute document format inputs => execute config files transport state document format inputs

/-- The text of an error that ends the program. -/
def errorText (message : String) : String := s!"\nError: {message}\n"

end SchemaForms.CommandLine
