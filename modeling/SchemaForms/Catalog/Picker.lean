import SchemaForms.Catalog.Basic
import SchemaForms.Text.Basic
import SchemaForms.Text.Lowercase

/-!
# Catalog/Picker — choosing a block of a kind

A picker shows the entries that a query matches, in catalog order.  A query matches an entry when it
occurs in the label, the name or the description, case and surrounding blanks aside.
-/

namespace SchemaForms.Catalog

/-- The blocks to choose from. -/
structure Picker where
  category : Category
  entries : List Definition
  query : String
  error : Option FetchError

namespace Picker

/-- A picker over the answer of a catalog; a failed answer leaves nothing to choose. -/
def ofAnswer (category : Category) : Except FetchError (List Definition) → Picker
  | .ok entries => ⟨category, entries, "", none⟩
  | .error e => ⟨category, [], "", some e⟩

/-- Opens a picker over a source. -/
def openFrom {σ : Type} (source : Source σ) (category : Category) (state : σ) : Picker × σ :=
  let (state, answer) := source.list category state
  (ofAnswer category answer, state)

/-- Whether `needle` occurs in `text`. -/
def occurs (needle : List Char) : List Char → Bool
  | [] => needle.isEmpty
  | c :: rest => needle.isPrefixOf (c :: rest) || occurs needle rest

/-- Whether a lower case needle occurs in a text of any case. -/
def mentions (needle : List Char) (text : String) : Bool :=
  occurs needle (Text.lowercase text.toList)

/-- Whether an entry mentions a needle. -/
def shows (needle : List Char) (entry : Definition) : Bool :=
  mentions needle entry.displayLabel || mentions needle entry.name ||
    (entry.description.map (mentions needle)).getD false

/-- The needle of a query. -/
def needle (query : String) : List Char := Text.lowercase (Text.trim query.toList)

/-- The entries that the query matches. -/
def visible (picker : Picker) : List Definition :=
  let needle := needle picker.query
  if needle.isEmpty then picker.entries else picker.entries.filter (shows needle)

/-- The entry with a given name, shown or not. -/
def select? (picker : Picker) (name : String) : Option Definition :=
  picker.entries.find? (·.name = name)

/-- What a picker shows, as a value. -/
def describe (picker : Picker) : List (String × Value) :=
  [("category", .str picker.category.tag),
    ("error", .textOrNull (picker.error.map FetchError.message)),
    ("entries", .num (.int picker.entries.length)),
    ("visible", .arr (picker.visible.map fun entry => .str entry.name))]

end Picker

end SchemaForms.Catalog
