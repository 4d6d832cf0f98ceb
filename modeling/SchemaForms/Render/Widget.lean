import SchemaForms.Catalog.Definition
import SchemaForms.Format
import SchemaForms.Path.Basic
import SchemaForms.Schema.Category
import SchemaForms.Schema.Description
import SchemaForms.Schema.Reference

/-!
# Render/Widget — the tree of editor controls

A widget is the control chosen for one schema fragment, at the path of the value it edits.  Modules
are widgets with a head of their own: a form of fields, a text, or one whose schema is still missing.
`nodes` lists a tree depth first; the searches over a tree are searches over that list.
-/

namespace SchemaForms

/-- What an "add" control does. -/
inductive AddKind where
  /-- Chooses a block and inserts it: at the end of a sequence, or at the place itself. -/
  | block (category : Category) (isArray : Bool)
  /-- Appends a copy of a template. -/
  | item (template : Value)
  deriving DecidableEq

/-- An "add" control, and the path that it adds to. -/
structure Affordance where
  target : Path
  kind : AddKind
  deriving DecidableEq

/-- The label of an "add" control. -/
def Affordance.label (add : Affordance) : String :=
  match add.kind with
  | .block category _ => s!"Add {category.tag}"
  | .item _ => "+ Add Item"

/-- How a module came to be shown. -/
inductive Role where
  /-- An object inside another, or the whole document. -/
  | object
  /-- An element of a list of objects. -/
  | item
  /-- A block; its name is unknown until the instance names one. -/
  | block (category : Category) (name : Option String)
  deriving DecidableEq

/-- What every module shows, whatever its body. -/
structure ModuleHead where
  path : Path
  title : Option String
  role : Role
  removable : Bool
  error : Option FetchError
  deriving DecidableEq

/-- An editor control. -/
inductive Widget where
  | blockList (path : Path) (category : Category) (items : List Widget)
  | primitiveList (path : Path) (kind : Primitive) (items : List Widget)
  | objectList (path : Path) (template : Value) (items : List Widget)
  | rawJson (path : Path) (text : String)
  | emptySlot (path : Path) (category : Category)
  | filledSlot (path : Path) (category : Category) (block : Widget)
  /-- A module as a form; `open_` if keys may be added. -/
  | form (head : ModuleHead) (fields : List (String × Widget)) (open_ : Bool)
  /-- A module as text. -/
  | source (head : ModuleHead) (format : Format) (text : String) (error : Option ParseError)
  /-- A module whose schema is missing. -/
  | pending (head : ModuleHead) (loading : Bool)
  | checkbox (path : Path) (checked : Bool)
  | number (path : Path) (value : Option UInt64) (integer : Bool)
  | select (path : Path) (options : List String) (selected : Option String)
  | text (path : Path) (value : String) (diagnostic : Option Schema.RefError)

namespace Widget

/-- The path of the value that a widget edits. -/
def path : Widget → Path
  | .blockList path _ _ | .primitiveList path _ _ | .objectList path _ _ | .rawJson path _
  | .emptySlot path _ | .filledSlot path _ _ | .checkbox path _ | .number path _ _
  | .select path _ _ | .text path _ _ => path
  | .form head _ _ | .source head _ _ _ | .pending head _ => head.path

/-- The name of the kind of a widget. -/
def kindName : Widget → String
  | .blockList .. => "block-list"
  | .primitiveList .. => "primitive-list"
  | .objectList .. => "object-list"
  | .rawJson .. => "raw-json"
  | .emptySlot .. | .filledSlot .. => "block-slot"
  | .form .. | .source .. | .pending .. => "module"
  | .checkbox .. => "checkbox"
  | .number .. => "number"
  | .select .. => "select"
  | .text .. => "text"

/-- The "add" control that a widget itself carries. -/
def affordance? : Widget → Option Affordance
  | .blockList path category _ => some ⟨path, .block category true⟩
  | .primitiveList path kind _ => some ⟨path, .item kind.default⟩
  | .objectList path template _ => some ⟨path, .item template⟩
  | .emptySlot path category => some ⟨path, .block category false⟩
  | _ => none

/-- The widgets directly inside a widget, in the order in which they are shown. -/
def children : Widget → List Widget
  | .blockList _ _ items | .primitiveList _ _ items | .objectList _ _ items => items
  | .filledSlot _ _ block => [block]
  | .form _ fields _ => fields.map (·.2)
  | _ => []

mutual

/-- A widget and all widgets inside it, depth first. -/
def nodes : Widget → List Widget
  | .blockList path category items => .blockList path category items :: nodesOfItems items
  | .primitiveList path kind items => .primitiveList path kind items :: nodesOfItems items
  | .objectList path template items => .objectList path template items :: nodesOfItems items
  | .filledSlot path category block => .filledSlot path category block :: nodes block
  | .form head fields open_ => .form head fields open_ :: nodesOfFields fields
  | leaf => [leaf]

/-- All widgets of a list, depth first. -/
def nodesOfItems : List Widget → List Widget
  | [] => []
  | item :: items => nodes item ++ nodesOfItems items

/-- All widgets of a list of fields, depth first. -/
def nodesOfFields : List (String × Widget) → List Widget
  | [] => []
  | (_, widget) :: fields => nodes widget ++ nodesOfFields fields

end

/-- The first widget at a path, depth first. -/
def find? (widget : Widget) (path : Path) : Option Widget :=
  widget.nodes.find? fun node => node.path = path

/-- The "add" controls of a tree. -/
def affordances (widget : Widget) : List Affordance := widget.nodes.filterMap affordance?

/-- The head of a module whose schema is missing. -/
def pendingHead? : Widget → Option ModuleHead
  | .pending head _ => some head
  | _ => none

/-- The modules of a tree whose schemas are missing. -/
def pendingModules (widget : Widget) : List ModuleHead := widget.nodes.filterMap pendingHead?

end Widget

end SchemaForms
