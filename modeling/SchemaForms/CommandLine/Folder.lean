import SchemaForms.CommandLine.Help
import SchemaForms.CommandLine.Report

/-!
# CommandLine/Folder — the program over files in memory

A folder holds texts by their names, some of them in folders inside, and nothing else is there.  A
name is followed part by part; of what lies around the folder nothing can be read, and what is written
there is lost.  Over a folder the whole program is a function of its arguments, its environment and
what the backend answers.
-/

namespace SchemaForms.CommandLine

/-- The texts of a folder by their names; a slash follows the name of a folder inside. -/
abbrev Folder := List (String × String)

namespace Folder

/-! ## Files -/

/-- Goes along one part of a name; up from the folder itself there is nothing. -/
def along? (parts : List (List Char)) (part : List Char) : Option (List (List Char)) :=
  if part = [] ∨ part = ['.'] then some parts
  else if part = ['.', '.'] then if parts = [] then none else some parts.dropLast
  else some (parts ++ [part])

/-- The parts of a name that leads into the folder, without detours. -/
def partsOf? (name : String) : Option (List (List Char)) :=
  if name.toList.head? = some '/' then none
  else ((name.toList.splitOn '/').foldlM along? []).filter fun parts => !parts.isEmpty

/-- The name with these parts. -/
def nameOf (parts : List (List Char)) : String := String.ofList (['/'].intercalate parts)

/-- The folder with these files, and the folders that they are in; what leads out of it is lost. -/
def ofFiles (files : List (String × String)) : Folder :=
  files.foldl (fun folder (name, text) =>
    match partsOf? name with
    | some parts => Table.insert folder (nameOf parts) text
    | none => folder) []

/-- Whether there is a folder inside with these parts. -/
def holds (folder : Folder) (parts : List (List Char)) : Bool :=
  folder.any fun file => (['/'].intercalate parts ++ ['/']).isPrefixOf file.1.toList

/-! ## Names -/

/-- Where a name leads. -/
inductive Place where
  /-- The folder itself, or one inside. -/
  | folder (parts : List (List Char))
  /-- A folder around it. -/
  | around
  /-- A file of the folder, which may be absent. -/
  | file (name : String)
  /-- A file elsewhere. -/
  | elsewhere
  deriving DecidableEq

/-- Whether a part is longer than one can be. -/
def isTooLong (part : List Char) : Bool := decide (255 < (String.ofList part).utf8ByteSize)

/-- Follows one part of a name; behind a file nothing goes on. -/
def follow (folder : Folder) (place : Place) (part : List Char) : Except FileFault Place :=
  match place with
  | .folder parts =>
    match along? parts part with
    | none => .ok .around
    | some next =>
      if isTooLong part then .error .tooLong
      else .ok (if next.length ≤ parts.length || folder.holds next then .folder next
        else .file (nameOf next))
  | .around =>
    if along? [] part ≠ some [part] then .ok .around
    else if isTooLong part then .error .tooLong
    else .ok .elsewhere
  | .file name => .error (if Table.contains folder name then .behindFile else .missing)
  | .elsewhere => .error .missing

/-- Follows the parts of a name, which slashes separate. -/
def followAll (folder : Folder) (place : Place) (name : List Char) : Except FileFault Place :=
  (name.splitOn '/').foldlM folder.follow place

/-- Where a name leads, up to the slashes at its end. -/
def locate (folder : Folder) (name : String) : Except FileFault Place :=
  let chars := name.toList
  folder.followAll (if chars.head? = some '/' then .around else .folder [])
    (chars.reverse.dropWhile (· = '/')).reverse

/-! ## Reading and writing -/

/-- Whether a name can only be one of a folder: a slash ends it. -/
def asksFolder (name : String) : Bool := name.toList.getLast? = some '/'

/-- The text of a file, or why there is none. -/
def read (folder : Folder) (name : String) : Except FileFault String := do
  if name.isEmpty then .error .missing
  match ← folder.locate name with
  | .folder _ | .around => .error .folder
  | .elsewhere => .error .missing
  | .file file =>
    match Table.get? folder file with
    | none => .error .missing
    | some text => if asksFolder name then .error .behindFile else .ok text

/-- The text of a file, if there is one. -/
def read? (folder : Folder) (name : String) : Option String := (folder.read name).toOption

/-- The files that a command reads. -/
def filesFor (folder : Folder) (command : Command) : Files :=
  command.inputFiles.map fun name => (name, (folder.read name).mapError FileFault.message)

/-- Writes a file, or tells why its name leads to none. -/
def write (folder : Folder) (name text : String) : Except FileFault Folder := do
  if name.isEmpty then .error .missing
  match ← folder.locate name with
  | .folder _ | .around => .error .folder
  | .elsewhere => if asksFolder name then .error .folder else .ok folder
  | .file file =>
    if !asksFolder name then .ok (Table.insert folder file text)
    else .error (if Table.contains folder file then .behindFile else .folder)

end Folder

/-- What the program leaves behind. -/
structure Exit where
  code : Nat
  output : String
  error : String
  folder : Folder

namespace Exit

/-- What the program says when asked for its version. -/
def versionText : String := "blockform 0.1.0\n"

/-- No command was carried out; that is a failure unless the user asked for something else. -/
def ofRefusal (refusal : Refusal) (folder : Folder) : Exit :=
  match refusal with
  | .misuse complaint => ⟨2, "", complaint.message, folder⟩
  | .help form true => ⟨0, form.help, "", folder⟩
  | .help form false => ⟨2, "", form.help, folder⟩
  | .version => ⟨0, versionText, "", folder⟩

/-- What a report comes to. -/
def ofReport (report : Report) (elapsed : String) (folder : Folder) : Exit :=
  match report.error with
  | none => ⟨0, report.output elapsed, "", folder⟩
  | some message => ⟨1, report.output elapsed, errorText message, folder⟩

end Exit

/-- Writes the file of a report; the report changes if that fails. -/
def deliver (report : Report) (folder : Folder) : Report × Folder :=
  match report.file with
  | none => (report, folder)
  | some (name, text) =>
    match folder.write name text with
    | .ok folder => (report, folder)
    | .error fault => (.refused fault.message, folder)

/-- Runs the program; `elapsed` is the time that a command takes, as it is shown. -/
def run {σ : Type} (arguments : List String) (environment : List (String × String))
    (folder : Folder) (transport : Transport σ) (state : σ) (elapsed : String) : Exit :=
  match Arguments.parse arguments with
  | .error refusal => .ofRefusal refusal folder
  | .ok parsed =>
    let config := parsed.configure (Config.ofEnvironment environment)
    let report := perform parsed.command config (folder.filesFor parsed.command) transport state
    let (report, folder) := deliver report folder
    .ofReport report elapsed folder

end SchemaForms.CommandLine
