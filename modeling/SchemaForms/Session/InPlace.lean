import SchemaForms.Session.Description
import SchemaForms.Store.InPlace

/-!
# Session/InPlace — structural edits step by step

Insertions, removals and moves as programs that change a session in place: each writes the document
first and then tidies the cache and the editors, each on its own.  A write that is refused on its way
ends the program, and what it changed until then stays.
-/

namespace SchemaForms.Session

/-- A program that changes a session in place; a refusal does not undo what it changed. -/
abbrev Stepwise := EStateM EditError Session

namespace Stepwise

/-! ## Steps -/

/-- Runs a program of the store. -/
def inStore {α : Type} (program : InPlace α) : Stepwise α := fun session =>
  match program.run session.store with
  | .ok answer store => .ok answer { session with store := store }
  | .error refusal store => .error (.store refusal) { session with store := store }

/-- Clears the field at a path. -/
def reset (path : Path) : Stepwise Unit :=
  modify fun session => { session with store := session.store.reset path }

/-- Evicts the schemas and the loads at or below a path. -/
def evict (path : Path) : Stepwise Unit :=
  modify fun session => session.setCache (session.registry.cache.evict path)

/-- Evicts the schemas and the loads at or below the elements of a sequence from an index on. -/
def evictFrom (array : Path) (index : Nat) : Stepwise Unit :=
  modify fun session => session.setCache (session.registry.cache.evictFrom array index)

/-- Forgets the editors whose paths satisfy `doomed`. -/
def forgetEditors (doomed : Path → Bool) : Stepwise Unit :=
  modify fun session => { session with registry := session.registry.forgetEditors doomed }

/-! ## Insertions -/

/-- Puts an instance in its place and returns its path. -/
def place (insertion : Insertion) (found : Value) : Stepwise Path := do
  if insertion.isArray then
    let index ← inStore (.append insertion.target found)
    return insertion.target.item index
  else
    inStore (.set insertion.target found .interactive)
    return insertion.target

/-- Inserts a new instance of a block and returns its path. -/
def insertBlock (insertion : Insertion) (definition : Catalog.Definition) : Stepwise Path := do
  let inserted ← place insertion (definition.newInstance insertion.category)
  evict inserted
  forgetEditors fun path => Path.startsWith path inserted
  return inserted

/-! ## Removals and moves -/

/-- Removes an element of a sequence and returns it. -/
def removeItem (array : Path) (index : Nat) : Stepwise Value := do
  let removed ← inStore (.remove array index)
  evictFrom array index
  forgetEditors (Cache.throughItem array fun i => decide (index ≤ i))
  return removed

/-- Removes a member of an object and returns it. -/
def removeMember (path : Path) : Stepwise Value := do
  let some removed := (← get).value? path | throw (.notABlock path)
  reset path
  evict path
  forgetEditors fun other => Path.startsWith other path
  return removed

/-- Removes the value at a path and returns it; the whole document cannot be removed. -/
def remove (path : Path) : Stepwise Value :=
  match path.splitLast? with
  | some (array, .index i) => removeItem array i
  | some (_, .key _) => removeMember path
  | none => throw (.notABlock path)

/-- The indices from the one to the other, both included, whichever is the lower. -/
def between (source target : Nat) : List Nat :=
  List.range' (min source target) (max source target + 1 - min source target)

/-- Drops what is filed about the elements from the one index to the other: they are evicted one after
the other, and then their editors are forgotten. -/
def dropBetween (array : Path) (source target : Nat) : Stepwise Unit := do
  (between source target).forM fun index => evict (array.item index)
  forgetEditors (Cache.throughItem array (between source target).contains)

/-- Moves an element of a sequence.  If it stays where it is, no other changes its index. -/
def move (array : Path) (source target : Nat) : Stepwise Unit := do
  inStore (.move array source target)
  unless source = target do
    dropBetween array source target

end Stepwise

end SchemaForms.Session
