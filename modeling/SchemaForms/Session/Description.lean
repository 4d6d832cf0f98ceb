import SchemaForms.Catalog.Picker
import SchemaForms.Session.Basic

/-!
# Session/Description — what a host sees of an editor, and what its "add" controls do

What a host that is elsewhere has to know of the editor at a path.  An editor that nothing happened to
shows its module as a form.  An "add" control in it either appends its template at once or asks for a
block, which is then chosen in a picker and inserted.  A new block starts without anything that was
filed about its path before.
-/

namespace SchemaForms.Session

/-! ## Editors -/

/-- The mode of the editor at a path, and the text that it shows. -/
def describeMode (session : Session) (path : Path) : List (String × Value) :=
  [("mode", .str (((session.editor? path).map EditorState.mode).getD .structured).name),
    ("text", .textOrNull
      (((session.editor? path).bind EditorState.shownText?).map fun shown => shown.2.1))]

/-- The editor at a path: its mode, its errors, and the value that it edits. -/
def describeEditor (session : Session) (path : Path) : List (String × Value) :=
  let state := session.editor? path
  ("path", .str path.key) :: session.describeMode path ++
    [("parse_error", .textOrNull ((state.bind EditorState.parseError).map ParseError.message)),
      ("fetch_error", .textOrNull ((state.bind EditorState.fetchError).map FetchError.message)),
      ("block_name", .textOrNull (state.bind EditorState.name)),
      ("value", .textOrNull ((session.value? path).map Json.compact)),
      ("loading", .bool (session.registry.cache.isLoading path))]

end SchemaForms.Session

/-! ## "Add" controls -/

namespace SchemaForms

/-- A block to be inserted: at the end of the sequence at a path, or at the path itself. -/
structure Insertion where
  category : Category
  target : Path
  isArray : Bool

/-- The insertion that a control asks for, if it is about blocks. -/
def Insertion.ofAffordance? (add : Affordance) : Option Insertion :=
  match add.kind with
  | .block category isArray => some ⟨category, add.target, isArray⟩
  | .item _ => none

namespace Session

/-- Puts an instance in its place and returns its path. -/
def place (session : Session) (insertion : Insertion) (found : Value) :
    Except EditError (Path × Session) :=
  if insertion.isArray then
    (session.append insertion.target found).map fun (index, session) =>
      (insertion.target.item index, session)
  else
    match session.write insertion.target found with
    | .ok session => .ok (insertion.target, session)
    | .error e => .error (.store e)

/-- Inserts a new instance of a block and returns its path. -/
def insertBlock (session : Session) (insertion : Insertion) (definition : Catalog.Definition) :
    Except EditError (Path × Session) :=
  (session.place insertion (definition.newInstance insertion.category)).map
    fun (path, session) => (path, { session with registry := session.registry.dropUnder path })

/-- What a control led to. -/
inductive Activation where
  | appended (session : Session)
  | choice (picker : Catalog.Picker)

/-- Activates a control: a template is appended, and for a block a picker is opened. -/
def activate {σ : Type} (session : Session) (source : Catalog.Source σ) (add : Affordance)
    (state : σ) : Except EditError Activation × σ :=
  match add.kind with
  | .item template =>
    ((session.append add.target template).map fun (_, session) => .appended session, state)
  | .block category _ =>
    let (picker, state) := Catalog.Picker.openFrom source category state
    (.ok (.choice picker), state)

end Session

end SchemaForms
