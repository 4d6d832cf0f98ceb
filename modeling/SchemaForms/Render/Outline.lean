import SchemaForms.Path.Key
import SchemaForms.Render.Widget
import SchemaForms.Text.Escaped

/-!
# Render/Outline — a widget tree as text

One line for each widget, indented by two spaces for each level, with a further line for what the
widget can add.
-/

namespace SchemaForms.Outline

/-- The indentation of a level. -/
def indent (depth : Nat) : String := String.ofList (List.replicate (2 * depth) ' ')

/-- A line. -/
def line (depth : Nat) (text : String) : String := indent depth ++ text ++ "\n"

/-- A text in quotes. -/
def quoted (text : String) : String := String.ofList (Text.quoted text.toList)

/-- A role, in parentheses. -/
def roleText : Role → String
  | .object => "object"
  | .item => "item"
  | .block category (some name) => s!"{category.tag} {name}"
  | .block category none => category.tag

/-- The line of a module. -/
def headText (head : ModuleHead) : String :=
  s!"module {head.path.key} ({roleText head.role})" ++
    (if head.removable then " [remove]" else "") ++
    (match head.error with
      | some e => s!" ! {e.message}"
      | none => "")

/-- A number as it is shown. -/
def numberText : Option UInt64 → String
  | some bits => String.ofList (Decimal.Layout.plain.text bits)
  | none => "-"

/-- The line of a widget. -/
def title : Widget → String
  | .blockList _ category items => s!"block-list {category.tag} ({items.length} items)"
  | .primitiveList _ kind items => s!"{kind.tag}-list ({items.length} items)"
  | .objectList _ _ items => s!"object-list ({items.length} items)"
  | .rawJson _ text =>
    "raw-json " ++ String.ofList (text.toList.map fun c => if c = '\n' then ' ' else c)
  | .emptySlot _ category | .filledSlot _ category _ => s!"block-slot {category.tag}"
  | .form head _ _ | .source head _ _ _ | .pending head _ => headText head
  | .checkbox _ checked => if checked then "checkbox [x]" else "checkbox [ ]"
  | .number _ value integer => (if integer then "integer " else "number ") ++ numberText value
  | .select _ options selected =>
    "select " ++ selected.getD "-" ++ " of [" ++ ", ".intercalate options ++ "]"
  | .text _ value _ => "text " ++ quoted value

/-- The lines below the line of a widget that has no widgets inside. -/
def details (depth : Nat) : Widget → String
  | .source _ format text error =>
    line (depth + 1) s!"<{format.name} text, {text.utf8ByteSize} bytes>" ++
      (match error with
        | some e => line (depth + 1) s!"! {e.message}"
        | none => "")
  | .pending _ loading => line (depth + 1) (if loading then "<loading>" else "<pending>")
  | .text _ _ (some diagnostic) => line depth s!"  ! {diagnostic.message}"
  | _ => ""

/-- The line of the "add" control of a widget. -/
def addLine (depth : Nat) (widget : Widget) : String :=
  match widget.affordance? with
  | some add => line (depth + 1) s!"[{add.label}]"
  | none => ""

mutual

/-- The lines of a widget; its own line begins with `label`. -/
def widgetLines (label : String) (depth : Nat) : Widget → String
  | .blockList path category items =>
    line depth (label ++ title (.blockList path category items)) ++ itemLines (depth + 1) items ++
      addLine depth (.blockList path category items)
  | .primitiveList path kind items =>
    line depth (label ++ title (.primitiveList path kind items)) ++ itemLines (depth + 1) items ++
      addLine depth (.primitiveList path kind items)
  | .objectList path template items =>
    line depth (label ++ title (.objectList path template items)) ++ itemLines (depth + 1) items ++
      addLine depth (.objectList path template items)
  | .filledSlot path category block =>
    line depth (label ++ title (.filledSlot path category block)) ++
      widgetLines "" (depth + 1) block
  | .form head fields open_ =>
    line depth (label ++ headText head) ++ fieldLines (depth + 1) fields ++
      (if open_ then line (depth + 1) "[+ Add Property]" else "")
  | leaf => line depth (label ++ title leaf) ++ details depth leaf ++ addLine depth leaf

/-- The lines of the elements of a list. -/
def itemLines (depth : Nat) : List Widget → String
  | [] => ""
  | item :: items => widgetLines "" depth item ++ itemLines depth items

/-- The lines of the fields of a form. -/
def fieldLines (depth : Nat) : List (String × Widget) → String
  | [] => ""
  | (key, widget) :: fields => widgetLines s!"{key}: " depth widget ++ fieldLines depth fields

end

/-- The outline of a widget tree. -/
def format (widget : Widget) : String := widgetLines "" 0 widget

end SchemaForms.Outline
