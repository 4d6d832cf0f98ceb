import SchemaForms.Config
import SchemaForms.Decode
import SchemaForms.Render.Basic
import SchemaForms.Session.Registry
import SchemaForms.Store.Basic
import SchemaForms.Text.Basic

/-!
# Session/Basic — an editing session

A session is a document with the schemas and editors that are filed about its parts.  An edit that
takes a value away from its path, or moves another there, also drops what is filed about the paths
that it concerns; an edit that is refused leaves the session as it was.
-/

namespace SchemaForms

/-- Why an edit is refused. -/
inductive EditError where
  | parse (error : ParseError)
  | store (error : StoreError)
  | validation (error : ValidationError)
  | notABlock (path : Path)
  deriving DecidableEq

/-- The wording of the error. -/
def EditError.message : EditError → String
  | .parse error => error.message
  | .store error => error.message
  | .validation error => error.message
  | .notABlock path => s!"Path '{path.key}' does not hold a block instance"

/-- What a person does to a field. -/
inductive FieldInput where
  | text (text : String)
  /-- The text of a number control. -/
  | number (text : String)
  | checked (isChecked : Bool)
  | select (option : String)
  /-- The text of a control that shows JSON. -/
  | rawJson (text : String)
  | value (value : Value)

/-- The number that a text denotes: an integer of 64 bits, or else the nearest finite double; null
for any other text. -/
def numberOfText (text : String) : Value :=
  let body := Text.trim text.toList
  match Numeral.integer? body, Numeral.double? body with
  | some n, _ => .num (.int n)
  | none, some bits => .num (.float bits)
  | none, none => .null

/-- The value that an input stands for; JSON text that cannot be read stands for none. -/
def FieldInput.value? : FieldInput → Option Value
  | .text entered | .select entered => some (.str entered)
  | .number entered => some (numberOfText entered)
  | .checked isChecked => some (.bool isChecked)
  | .rawJson entered => (Format.json.read entered).toOption
  | .value entered => some entered

/-- An editing session. -/
structure Session where
  config : Config
  store : Store
  registry : Registry
  /-- How many mounts ever began. -/
  mounts : Nat

namespace Session

/-- A session over a document. -/
def ofDocument (config : Config) (document : Value) : Session :=
  ⟨config, .ofDocument document, .empty config.policy, 0⟩

/-- The value at a path. -/
def value? (session : Session) (path : Path) : Option Value := session.store.get? path

/-- The state of the editor at a path. -/
def editor? (session : Session) (path : Path) : Option EditorState := session.registry.editor? path

/-- The state of the editor at a path; one that nothing happened to is in its initial state. -/
def editorAt (session : Session) (path : Path) : EditorState :=
  (session.editor? path).getD .initial

/-- Files the state of an editor. -/
def setEditor (session : Session) (path : Path) (state : EditorState) : Session :=
  { session with registry := session.registry.setEditor path state }

/-- Replaces the schema cache. -/
def setCache (session : Session) (cache : Cache) : Session :=
  { session with registry := { session.registry with cache := cache } }

/-- Writes a value as a person's edit. -/
def write (session : Session) (path : Path) (value : Value) : Except StoreError Session :=
  (session.store.set path value .interactive).map fun store => { session with store := store }

/-- Applies an input to a field; the result is absent if nothing was written. -/
def input? (session : Session) (path : Path) (input : FieldInput) : Option Session :=
  input.value?.bind fun value => (session.write path value).toOption

/-- Appends to the sequence at a path and returns the index of the new element. -/
def append (session : Session) (path : Path) (item : Value) : Except EditError (Nat × Session) :=
  match session.store.append path item with
  | .ok (index, store) => .ok (index, { session with store := store })
  | .error e => .error (.store e)

/-! ## Removing and moving -/

/-- Removes an element of a sequence.  What is filed about it and the elements after it goes. -/
def removeItem (session : Session) (array : Path) (index : Nat) :
    Except EditError (Value × Session) :=
  match session.store.remove array index with
  | .error e => .error (.store e)
  | .ok (removed, store) =>
    .ok (removed, { session with
      store := store
      registry := session.registry.dropWhere (Cache.throughItem array fun i => decide (index ≤ i)) })

/-- Removes a member of an object, with what is filed about it. -/
def removeMember (session : Session) (path : Path) : Except EditError (Value × Session) :=
  match session.value? path with
  | none => .error (.notABlock path)
  | some removed =>
    .ok (removed, { session with
      store := session.store.reset path
      registry := session.registry.dropUnder path })

/-- Removes the value at a path; the whole document cannot be removed. -/
def remove (session : Session) (path : Path) : Except EditError (Value × Session) :=
  match path.splitLast? with
  | some (array, .index i) => session.removeItem array i
  | some (_, .key _) => session.removeMember path
  | none => .error (.notABlock path)

/-- Moves an element of a sequence.  What is filed about the elements that change their index goes. -/
def move (session : Session) (array : Path) (source target : Nat) : Except EditError Session :=
  match session.store.move array source target with
  | .error e => .error (.store e)
  | .ok store =>
    .ok { session with
      store := store
      registry :=
        if source = target then session.registry
        else session.registry.dropWhere (Cache.throughItem array fun i =>
          decide (min source target ≤ i ∧ i ≤ max source target)) }

/-! ## Rendering -/

/-- What the module of an editor shows. -/
def subjectOf (descriptor : Descriptor) : Subject :=
  match descriptor.schema, descriptor.category, descriptor.name with
  | some schema, _, _ => .object schema false
  | none, some category, name => .block category name
  | none, none, some name => .block (Catalog.categoryOfName name) (some name)
  | none, none, none => .object Schema.freeForm false

/-- The module of the editor at a path. -/
def moduleOf (session : Session) (path : Path) : ModuleRequest :=
  ⟨none, path,
    subjectOf (((session.editor? path).bind EditorState.descriptor).getD .unknown), false⟩

/-- What rendering reads of a session. -/
def view (session : Session) : View := ⟨session.store.document, session.config.maxRefDepth⟩

/-- Runs a rendering on the registry of a session. -/
def runRenderer {α : Type} (session : Session) (renderer : Renderer α) : α × Session :=
  let (result, registry) := renderer.run session.registry
  (result, { session with registry := registry })

/-- Renders the fields at a depth. -/
def fieldAt (session : Session) (depth : Nat) : FieldRenderer :=
  Render.field session.view (Render.roomAt session.config.maxRenderDepth depth)

/-- Renders the editor at a path, with everything below it. -/
def render (session : Session) (path : Path) : Widget × Session :=
  session.runRenderer (Render.module session.view (session.fieldAt 0) (session.moduleOf path))

end Session

end SchemaForms
