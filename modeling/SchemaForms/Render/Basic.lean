import SchemaForms.Render.Widget
import SchemaForms.Schema.Description
import SchemaForms.Session.Registry
import SchemaForms.Store.Document

/-!
# Render/Basic — the control for each schema fragment

A fragment is shown by the control that its node calls for; objects and blocks become modules, whose
fields are rendered in turn.  Rendering reads the document and works on the registry: a module whose
schema is at hand files it, and an editor that was mounted for another block than the one now at its
path is dropped.  A field is given the number of levels that may still open below it, and one that is
given none shows its value as JSON text.
-/

namespace SchemaForms

/-- What a rendering reads: the document, and the limit on chains of references. -/
structure View where
  document : Value
  maxRefDepth : Nat

/-- A computation on the registry. -/
abbrev Renderer := StateM Registry

/-- What a module shows. -/
inductive Subject where
  /-- An object whose schema is at hand; `isItem` of an element of a list. -/
  | object (schema : Value) (isItem : Bool)
  /-- A block of a kind, under the name that it was given, if any; its schema is looked up. -/
  | block (category : Category) (given : Option String)

/-- A module to be rendered. -/
structure ModuleRequest where
  title : Option String
  path : Path
  subject : Subject
  removable : Bool

/-- Renders the field with a given key, fragment, root and path. -/
abbrev FieldRenderer := String → Value → Value → Path → Renderer Widget

namespace Render

/-! ## Scalars -/

/-- The text that a text control shows for a value. -/
def textOf : Option Value → String
  | none | some .null => ""
  | some (.str s) => s
  | some other => Json.compact other

/-- The double that a number control shows for a value. -/
def doubleOf? : Option Value → Option UInt64
  | some (.num (.int n)) =>
    some (Binary64.withSign (decide (n < 0)) (Binary64.ofNat n.natAbs))
  | some (.num (.float bits)) => some bits
  | _ => none

/-- Whether a check box is checked. -/
def isChecked (value : Option Value) : Bool := value = some (.bool true)

/-- The control for a scalar. -/
def scalar (kind : Primitive) (options : Option (List String)) (path : Path)
    (value : Option Value) : Widget :=
  match kind, options with
  | .boolean, _ => .checkbox path (isChecked value)
  | .number, _ => .number path (doubleOf? value) false
  | .integer, _ => .number path (doubleOf? value) true
  | .string, some options => .select path options (value.bind Value.asText?)
  | .string, none => .text path (textOf value) none

/-- A value as JSON text. -/
def rawJson (path : Path) (value : Value) : Widget := .rawJson path (Json.pretty value)

/-! ## Modules -/

/-- The keys of an instance that are not shown as fields. -/
def hiddenKeys : Subject → List String
  | .object _ _ => []
  | .block category _ => [category.tag, "alias"]

/-- The name of the block that the document holds at a path. -/
def liveName? (view : View) (path : Path) (category : Category) : Option String :=
  (Document.read? view.document path).bind fun found => Catalog.nameFromInstance? found category

/-- The editor at the path of a module.  One that was mounted for another block than the one that
the document holds there is dropped, and with it all that is filed below. -/
def currentEditor (view : View) (request : ModuleRequest) : Renderer (Option EditorState) := do
  let registry ← get
  match request.subject, registry.editor? request.path with
  | .block category _, some state =>
    if state.isStale (liveName? view request.path category) then
      set (registry.dropUnder request.path)
      return none
    else return some state
  | _, state => return state

/-- The role of a module.  A block is named by what it was given, by its instance, or by the editor
that asked for its schema. -/
def roleOf (view : View) (request : ModuleRequest) (state : Option EditorState) : Role :=
  match request.subject with
  | .object _ isItem => if isItem then .item else .object
  | .block category given =>
    .block category ((given.or (liveName? view request.path category)).or (state.bind (·.name)))

/-- The head of a module. -/
def headOf (view : View) (request : ModuleRequest) (state : Option EditorState) : ModuleHead :=
  ⟨request.path, request.title, roleOf view request state, request.removable,
    state.bind (·.fetchError)⟩

/-- The schema by which a module is shown.  One that is at hand is filed, unless there is one. -/
def schemaFor (request : ModuleRequest) : Renderer (Option Value) := do
  match request.subject with
  | .object schema _ =>
    modify fun registry => { registry with cache := registry.cache.seed request.path schema }
  | .block _ _ => pure ()
  return (← get).cache.peek? request.path

/-- The keys of an object that its schema does not declare, with their fragments. -/
def undeclared (shape : Schema.ObjectShape) (hidden : List String) (found : Option Value) :
    List (String × Value) :=
  let extra := ((found.bind Value.asMembers?).getD []).filter fun member =>
    !Table.contains shape.properties member.1 && !hidden.contains member.1
  match shape.additional with
  | .forbidden => []
  | .any => extra.map fun member => (member.1, Schema.infer member.2)
  | .typed schema => extra.map fun member => (member.1, schema)

/-- The fields of an object and their fragments: those declared and not hidden, then the others. -/
def fieldSchemas (shape : Schema.ObjectShape) (hidden : List String) (found : Option Value) :
    List (String × Value) :=
  shape.properties.filter (fun property => !hidden.contains property.1) ++
    undeclared shape hidden found

/-- The fields of a module with a given schema, and whether keys may be added.  A module whose
schema describes no object shows its value as a single field. -/
def fields (view : View) (field : FieldRenderer) (schema : Value) (path : Path)
    (hidden : List String) : Renderer (List (String × Widget) × Bool) := do
  match Schema.Node.classify (Schema.resolve view.maxRefDepth schema schema).toOption.join with
  | .object shape =>
    let rendered ← (fieldSchemas shape hidden (Document.read? view.document path)).mapM
      fun (key, fragment) => do
        return (key, ← field key fragment schema (path.child key))
    return (rendered, decide (shape.additional ≠ .forbidden))
  | _ => return ([("value", ← field "value" schema schema path)], false)

/-- A module: as text if its editor is in a text mode, else as the form of its schema. -/
def module (view : View) (field : FieldRenderer) (request : ModuleRequest) : Renderer Widget := do
  let state ← currentEditor view request
  let head := headOf view request state
  match state.bind EditorState.shownText? with
  | some (format, text, error) => return .source head format text error
  | none =>
    match ← schemaFor request with
    | some schema =>
      let (rendered, isOpen) ← fields view field schema request.path (hiddenKeys request.subject)
      return .form head rendered isOpen
    | none => return .pending head ((← get).cache.isLoading request.path)

/-! ## Fields -/

/-- The number of elements of the sequence at a path. -/
def itemCount (view : View) (path : Path) : Nat :=
  (((Document.read? view.document path).bind Value.asItems?).map List.length).getD 0

/-- One module for each element of the sequence at a path. -/
def itemModules (view : View) (field : FieldRenderer) (key : String) (path : Path)
    (subject : Subject) : Renderer (List Widget) :=
  (List.range (itemCount view path)).mapM fun i =>
    module view field ⟨some s!"{key}[{i}]", path.item i, subject, true⟩

/-- What the elements of a sequence are; a fragment that cannot be followed describes nothing. -/
def itemSchema? (view : View) (items : Option Value) (root : Value) : Option Value :=
  (Schema.resolve view.maxRefDepth (items.getD .null) root).toOption.join

/-- The control for a sequence. -/
def array (view : View) (next : FieldRenderer) (key : String) (items : Option Value)
    (root : Value) (path : Path) : Renderer Widget := do
  let resolved := itemSchema? view items root
  match Schema.Node.classify resolved with
  | .block category =>
    return .blockList path category (← itemModules view next key path (.block category none))
  | .primitive kind options =>
    return .primitiveList path kind ((List.range (itemCount view path)).map fun i =>
      scalar kind options (path.item i) (Document.read? view.document (path.item i)))
  | .object shape =>
    let schema := Schema.nested view.maxRefDepth shape (resolved.getD .null) root
    return .objectList path (Schema.template shape)
      (← itemModules view next key path (.object schema true))
  | .array _ | .unresolved =>
    return rawJson path ((Document.read? view.document path).getD (.arr []))

/-- The control for a fragment with levels left below it, whose fields `next` renders. -/
def openField (view : View) (next : FieldRenderer) : FieldRenderer :=
  fun key schema root path => do
    let value := Document.read? view.document path
    match Schema.resolve view.maxRefDepth schema root with
    | .error e => return .text path (textOf value) (some e)
    | .ok resolved =>
      match Schema.Node.classify resolved with
      | .array items => array view next key items root path
      | .block category =>
        if (value.getD .null).isNull then return .emptySlot path category
        else
          let block ← module view next ⟨some key, path, .block category none, true⟩
          return .filledSlot path category block
      | .object shape =>
        let nested := Schema.nested view.maxRefDepth shape (resolved.getD .null) root
        module view next ⟨some key, path, .object nested false, false⟩
      | .primitive kind options => return scalar kind options path value
      | .unresolved => return .text path (textOf value) none

/-- The control for a fragment, with a number of levels left. -/
def field (view : View) : Nat → FieldRenderer
  | 0 => fun _ _ _ path => return rawJson path ((Document.read? view.document path).getD .null)
  | room + 1 => openField view (field view room)

/-- The levels left at a depth. -/
def roomAt (maxDepth depth : Nat) : Nat := maxDepth + 1 - depth

end Render

end SchemaForms
