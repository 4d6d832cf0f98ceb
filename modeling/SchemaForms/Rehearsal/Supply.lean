import SchemaForms.Catalog.Basic

/-!
# Rehearsal/Supply — a catalog that can be slow and can fail

A supply answers from a catalog in memory, but counts the calls, fails where it is told to, and holds
the schemas of some blocks back.  A schema that is held back needs a permit; a permit goes to the call
that asks first.  A call is counted before it needs one, and fails only after it got one.
-/

namespace SchemaForms

/-- A catalog whose answers can be held back and made to fail. -/
structure Supply where
  catalog : Catalog
  /-- The errors for the schemas of blocks. -/
  failSchemas : List (String × FetchError)
  /-- The errors for the lists of blocks, by the tags of their kinds. -/
  failLists : List (String × FetchError)
  failRoot : Option FetchError
  /-- The unused permits for the schemas that are held back. -/
  permits : List (String × Nat)
  schemaCalls : Nat
  listCalls : Nat
  rootCalls : Nat

namespace Supply

/-- A schema, whether it is held back or not. -/
def schemaOf (supply : Supply) (name : String) : Except FetchError Catalog.BlockSchema :=
  match Table.get? supply.failSchemas name with
  | some e => .error e
  | none => supply.catalog.schemaOf name

/-- Gives out permits for a schema, if it is held back. -/
def release (supply : Supply) (name : String) (count : Nat) : Supply :=
  { supply with permits := Table.modify supply.permits name fun n => n + count }

/-- The schema of a block, for a permit if it is held back; there is no answer without one. -/
def obtain? (supply : Supply) (name : String) :
    Option (Except FetchError Catalog.BlockSchema × Supply) :=
  match Table.get? supply.permits name with
  | none => some (supply.schemaOf name, supply)
  | some 0 => none
  | some (n + 1) =>
    some (supply.schemaOf name, { supply with permits := Table.insert supply.permits name n })

/-- Asks for the blocks of a kind. -/
def askList (category : Category) (supply : Supply) :
    Supply × Except FetchError (List Catalog.Definition) :=
  ({ supply with listCalls := supply.listCalls + 1 },
    match Table.get? supply.failLists category.tag with
    | some e => .error e
    | none => .ok (supply.catalog.list category true))

/-- Asks for the schema of a block; there is no answer if the call has to wait. -/
def askSchema (name : String) (supply : Supply) :
    Supply × Option (Except FetchError Catalog.BlockSchema) :=
  let supply := { supply with schemaCalls := supply.schemaCalls + 1 }
  match supply.obtain? name with
  | some (answer, supply) => (supply, some answer)
  | none => (supply, none)

/-- Asks for the definition of the whole document. -/
def askRoot (supply : Supply) : Supply × Except FetchError Catalog.Definition :=
  ({ supply with rootCalls := supply.rootCalls + 1 },
    match supply.failRoot with
    | some e => .error e
    | none => supply.catalog.rootDefinition)

/-- A supply as a source of blocks. -/
def source : Catalog.Source Supply := ⟨askList, askSchema, askRoot⟩

end Supply

end SchemaForms
