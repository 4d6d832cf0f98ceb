import SchemaForms.Catalog.Definition

/-!
# Catalog/Basic — catalogs of blocks

A `Catalog` holds its blocks in memory.  A `Source` is anything that answers the three questions a
session asks: the blocks of a kind, the schema of a block, and the schema of the whole document.  Its
answers may change its state, and the schema of a block may be long in coming.
-/

namespace SchemaForms

/-- A catalog held in memory. -/
structure Catalog where
  /-- The blocks of each kind, in catalog order. -/
  blocks : List (Category × List Catalog.Definition)
  /-- The definition of the whole document. -/
  root : Option Catalog.Definition

namespace Catalog

/-- The catalog without blocks. -/
def empty : Catalog := ⟨[], none⟩

/-- The blocks of a kind. -/
def blocksOf (catalog : Catalog) (category : Category) : List Definition :=
  ((catalog.blocks.find? (·.1 = category)).map (·.2)).getD []

/-- Adds blocks to those of a kind. -/
def addTo : List (Category × List Definition) → Category → List Definition →
    List (Category × List Definition)
  | [], category, more => [(category, more)]
  | (c, known) :: rest, category, more =>
    if c = category then (c, known ++ more) :: rest else (c, known) :: addTo rest category more

/-- The blocks of a kind, with or without their schemas. -/
def list (catalog : Catalog) (category : Category) (withSchemas : Bool) : List Definition :=
  let blocks := catalog.blocksOf category
  if withSchemas then blocks else blocks.map fun definition => { definition with schema := none }

/-- The definition with a given name, of whatever kind. -/
def find? (catalog : Catalog) (name : String) : Option Definition :=
  (catalog.blocks.flatMap (·.2)).find? (·.name = name)

/-- The schema of a block; a block without one has the empty schema. -/
def schemaOf (catalog : Catalog) (name : String) : Except FetchError BlockSchema :=
  match catalog.find? name with
  | some definition => .ok ⟨definition.schema.getD .emptyObject, definition.examples⟩
  | none => .error (.unknownBlock name)

/-- The name under which the definition of the whole document is missed. -/
def rootName : String := "automation-definition"

/-- The definition of the whole document. -/
def rootDefinition (catalog : Catalog) : Except FetchError Definition :=
  match catalog.root with
  | some definition => .ok definition
  | none => .error (.unknownBlock rootName)

/-! ## Reading a catalog -/

/-- A complaint about a catalog file. -/
def invalid (detail : String) : FetchError := .undecodable "<catalog>" detail

/-- Reads the lists of blocks, in the order of the file. -/
def readBlocks : List (String × Value) → List (Category × List Definition) →
    Except FetchError (List (Category × List Definition))
  | [], known => .ok known
  | (tag, entries) :: rest, known =>
    match Category.ofTag? tag with
    | none => .error (invalid (Category.unknownMessage tag))
    | some category =>
      match Decode.list Definition.decode entries with
      | .error e => .error (invalid e.message)
      | .ok definitions => readBlocks rest (addTo known category definitions)

/-- Reads a catalog: the document's definition under `root`, and under `blocks` a list for each
kind. -/
def ofValue (document : Value) : Except FetchError Catalog := do
  let root ← match document.member? "root" with
    | none => .ok none
    | some value => ((Definition.decode value).map some).mapError fun e => invalid e.message
  let blocks ← match document.member? "blocks" with
    | some (.obj lists) => readBlocks lists []
    | _ => .ok []
  .ok ⟨blocks, root⟩

/-! ## Sources -/

/-- What a session asks of a catalog.  The state of the source is threaded through; an absent answer
to `schema` means that it has not come yet. -/
structure Source (σ : Type) where
  list : Category → σ → σ × Except FetchError (List Definition)
  schema : String → σ → σ × Option (Except FetchError BlockSchema)
  root : σ → σ × Except FetchError Definition

/-- A catalog in memory answers at once, and always the same. -/
def source {σ : Type} (catalog : Catalog) : Source σ where
  list category state := (state, .ok (catalog.list category true))
  schema name state := (state, some (catalog.schemaOf name))
  root state := (state, catalog.rootDefinition)

end Catalog

end SchemaForms
