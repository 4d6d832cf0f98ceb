import SchemaForms.Json.Writer
import SchemaForms.Path.Key
import SchemaForms.Render.Outline

/-!
# Render/Description — a widget tree as a document value

A host that draws the controls elsewhere gets the tree as a value.  Each widget becomes an object with
its kind, its path and the members of its kind; the widgets inside it stand in the same order.  Paths
are written as keys, and document values as compact JSON.
-/

namespace SchemaForms

/-- An "add" control as a value. -/
def Affordance.describe (add : Affordance) : Value :=
  .obj <| [("label", .str add.label), ("target", .str add.target.key)] ++
    match add.kind with
    | .block category isArray =>
      [("category", .str category.tag), ("is_array", .bool isArray)]
    | .item template => [("template", .str (Json.compact template))]

/-- A role as a value. -/
def Role.describe : Role → Value
  | .object => .obj [("kind", .str "object")]
  | .item => .obj [("kind", .str "item")]
  | .block category name =>
    .obj [("kind", .str "block"), ("category", .str category.tag), ("name", .textOrNull name)]

namespace Widget

/-- The members of every module, around those of its body. -/
def headDetails (head : ModuleHead) (body : List (String × Value)) : List (String × Value) :=
  [("title", .textOrNull head.title), ("role", head.role.describe),
    ("removable", .bool head.removable),
    ("error", .textOrNull (head.error.map FetchError.message)), ("body", .obj body)]

/-- The body of a module with a form; the path is given if keys may be added. -/
def formBody (fields : List Value) (path : Path) (isOpen : Bool) : List (String × Value) :=
  [("body", .str "fields"), ("fields", .arr fields),
    ("adder", if isOpen then .str path.key else .null)]

/-- The "add" control of a widget that has room for one. -/
def addDetail (widget : Widget) : String × Value :=
  ("add", (widget.affordance?.map Affordance.describe).getD .null)

/-- A number, written as a double. -/
def numberDetail (bits : Option UInt64) : Value :=
  .textOrNull (bits.map fun bits => Json.compact (.num (.float bits)))

/-- The members of a widget without widgets inside. -/
def leafDetails : Widget → List (String × Value)
  | .rawJson _ shown => [("text", .str shown)]
  | .emptySlot path category =>
    [("category", .str category.tag), ("instance", .null), addDetail (.emptySlot path category)]
  | .source head format shown error =>
    headDetails head [("body", .str "text"), ("format", .str format.name), ("text", .str shown),
      ("error", .textOrNull (error.map ParseError.message))]
  | .pending head loading =>
    headDetails head [("body", .str "pending"), ("loading", .bool loading)]
  | .checkbox _ checked => [("checked", .bool checked)]
  | .number _ value integer => [("value", numberDetail value), ("integer", .bool integer)]
  | .select _ options selected =>
    [("options", .arr (options.map Value.str)), ("selected", .textOrNull selected)]
  | .text _ value diagnostic =>
    [("value", .str value),
      ("diagnostic", .textOrNull (diagnostic.map Schema.RefError.message))]
  | _ => []

/-- An object that tells the kind and the path of a widget before its details. -/
def framed (widget : Widget) (details : List (String × Value)) : Value :=
  .obj ([("kind", .str widget.kindName), ("path", .str widget.path.key)] ++ details)

mutual

/-- The members of the kind of a widget. -/
def details : Widget → List (String × Value)
  | .blockList path category items =>
    [("category", .str category.tag), ("items", .arr (describeItems items)),
      addDetail (.blockList path category items)]
  | .primitiveList path kind items =>
    [("of", .str kind.tag), ("items", .arr (describeItems items)),
      addDetail (.primitiveList path kind items)]
  | .objectList path template items =>
    [("items", .arr (describeItems items)), addDetail (.objectList path template items)]
  | .filledSlot path category block =>
    [("category", .str category.tag), ("instance", framed block (details block)),
      addDetail (.filledSlot path category block)]
  | .form head fields isOpen =>
    headDetails head (formBody (describeFields fields) head.path isOpen)
  | leaf => leafDetails leaf

/-- The descriptions of the elements of a list. -/
def describeItems : List Widget → List Value
  | [] => []
  | item :: items => framed item (details item) :: describeItems items

/-- The descriptions of the fields of a form. -/
def describeFields : List (String × Widget) → List Value
  | [] => []
  | (key, widget) :: fields =>
    .obj [("key", .str key), ("widget", framed widget (details widget))] :: describeFields fields

end

/-- A widget as a value. -/
def describe (widget : Widget) : Value := framed widget (details widget)

/-- A tree at a glance: its outline, the paths of the modules whose schemas are missing, and its
controls. -/
def overview (widget : Widget) : List (String × Value) :=
  [("outline", .str (Outline.format widget)),
    ("pending", .arr (widget.pendingModules.map fun head => .str head.path.key)),
    ("affordances", .arr (widget.affordances.map Affordance.describe))]

end Widget

end SchemaForms
