import SchemaForms.Store.Basic

/-!
# Store/InPlace — writes step by step

The writes of a store as programs that change it in place.  A program that is refused keeps what it
changed before: the walk to the slot that is written makes containers, and only at its end is seen
whether the slot will do.

The walk itself goes step by step, too, through the document that it changes.  At each step it makes of
the value that it stands at the container which the step needs, with a slot for the step, and goes into
that slot; so behind the first thing that was missing it meets only what it made itself.
-/

namespace SchemaForms

/-! ## The walk to a slot -/

/-- The elements of the sequence at a path; what is missing, a scalar or an object has none. -/
def Document.itemsAt (document : Value) (path : Path) : List Value :=
  ((read? document path).bind Value.asItems?).getD []

/-- Where a walk stands: the document as it is by then, and the steps that were taken. -/
structure Walk where
  document : Value
  place : Path

namespace Walk

/-- What the walk makes of a value for a step: the container that the step needs, in which a missing
member is null and a sequence reaches up to the index. -/
def opened (node : Value) : Segment → Value
  | .key key =>
    let members := node.asMembers?.getD []
    .obj (if Table.contains members key then members else Table.insert members key .null)
  | .index i => .arr (Document.padTo (node.asItems?.getD []) i)

/-- The value that the walk stands at. -/
def here (walk : Walk) : Value := (Document.read? walk.document walk.place).getD .null

/-- The elements of the sequence that the walk stands at. -/
def items (walk : Walk) : List Value := Document.itemsAt walk.document walk.place

/-- Takes a step. -/
def next (walk : Walk) (step : Segment) : Walk where
  document := Document.write walk.document walk.place (opened walk.here step)
  place := walk.place ++ [step]

/-- The walk along a path, from the top of a document. -/
def along (document : Value) (path : Path) : Walk := path.foldl next ⟨document, []⟩

/-- How many nulls a step puts between the end of the sequence that the walk stands at and the slot
that the step leads to. -/
def gap (walk : Walk) : Segment → Nat
  | .key _ => 0
  | .index i => i - walk.items.length

end Walk

/-! ## Programs -/

/-- Walks to a slot and makes containers on the way: what is missing or of another kind is replaced
by an empty one, and a sequence is filled with null up to the slot.  The slot keeps its value. -/
def Document.reach : Value → Path → Value
  | node, [] => node
  | node, .key key :: rest =>
    let members := node.asMembers?.getD []
    .obj (Table.insert members key (reach ((Table.get? members key).getD .null) rest))
  | node, .index i :: rest =>
    let items := padTo (node.asItems?.getD []) i
    .arr (items.set i (reach (items[i]?.getD .null) rest))

/-- A program that changes a store in place; a refusal does not undo what it changed. -/
abbrev InPlace := EStateM StoreError Store

namespace InPlace

/-! ## Steps -/

/-- Refuses a path that reaches too far behind the end of a sequence. -/
def checkPadding (path : Path) : InPlace Unit := do
  match (← get).checkPadding path with
  | .ok () => pure ()
  | .error refusal => throw refusal

/-- Walks to the slot at a path. -/
def reach (path : Path) : InPlace Unit :=
  modify fun store => { store with document := Document.reach store.document path }

/-- The content of the slot at a path. -/
def slot? (path : Path) : InPlace (Option Value) := do return (← get).get? path

/-- Puts a value into the slot at a path. -/
def fill (path : Path) (value : Value) : InPlace Unit :=
  modify fun store => { store with document := Document.write store.document path value }

/-- Leaves the marks of a write. -/
def record (path : Path) (options : WriteOptions) : InPlace Unit :=
  modify fun store => { store with flags := store.flags.record path.key options }

/-- Publishes to those who watch a related path. -/
def notify (path : Path) : InPlace Unit :=
  modify fun store => { store with feeds := Feed.publish store.feeds store.document path }

/-! ## Writes -/

/-- Writes a value at a path. -/
def set (path : Path) (value : Value) (options : WriteOptions) : InPlace Unit := do
  checkPadding path
  reach path
  fill path value
  record path options
  notify path

/-- Adds an element at the end of the sequence in the slot at a path. -/
def push (path : Path) (item : Value) : InPlace Nat := do
  let some (.arr items) ← slot? path | throw (.notASequence path)
  fill path (.arr (items ++ [item]))
  record path .interactive
  notify path
  return items.length

/-- Makes the slot at a path an empty sequence if it is null. -/
def makeSequence (path : Path) : InPlace Unit := do
  if let some .null ← slot? path then
    fill path (.arr [])

/-- Appends to the sequence at a path. -/
def append (path : Path) (item : Value) : InPlace Nat := do
  checkPadding path
  reach path
  makeSequence path
  push path item

/-- Removes an element of the sequence at a path. -/
def remove (path : Path) (index : Nat) : InPlace Value := do
  let some (.arr items) ← slot? path | throw (.notASequence path)
  let some removed := items[index]? | throw (.outOfBounds path index items.length)
  fill path (.arr (items.eraseIdx index))
  record path .interactive
  notify path
  return removed

/-- Moves an element of the sequence at a path: it is taken out and put in again. -/
def move (path : Path) (source target : Nat) : InPlace Unit := do
  let some (.arr items) ← slot? path | throw (.notASequence path)
  if let some index := [source, target].find? (items.length ≤ ·) then
    throw (.outOfBounds path index items.length)
  let taken := items.eraseIdx source
  fill path (.arr taken)
  fill path (.arr (taken.insertIdx target (items[source]?.getD .null)))
  record path .interactive
  notify path

end InPlace

end SchemaForms
