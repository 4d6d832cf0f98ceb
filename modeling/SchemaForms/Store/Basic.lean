import SchemaForms.Store.Feed

/-!
# Store/Basic — the edited document

The store is the one copy of the document, with the marks on its fields and the feeds of its
watchers.  Writes can mark a field as dirty, as touched, or as to be validated; the marks are filed
under the written form of the field's path, and none of them has a bearing on a write.  The operations
are synchronous, and one that is refused changes nothing.  Every write is also there as data (`Edit`),
so that a sequence of them can be spoken of.
-/

namespace SchemaForms

/-! ## Marks -/

/-- The marks that a write leaves. -/
structure WriteOptions where
  validate : Bool
  dirty : Bool
  touched : Bool
  deriving DecidableEq

/-- A write that leaves no mark. -/
def WriteOptions.silent : WriteOptions := ⟨false, false, false⟩

/-- A write by a person leaves all marks. -/
def WriteOptions.interactive : WriteOptions := ⟨true, true, true⟩

/-- The marked fields. -/
structure Flags where
  dirty : List String
  touched : List String
  requested : List String

namespace Flags

/-- No marks. -/
def empty : Flags := ⟨[], [], []⟩

/-- Adds a key to a set of keys, if the mark is wanted. -/
def mark (wanted : Bool) (key : String) (keys : List String) : List String :=
  if wanted && !keys.contains key then keys ++ [key] else keys

/-- Leaves the marks of a write. -/
def record (flags : Flags) (key : String) (options : WriteOptions) : Flags :=
  ⟨mark options.dirty key flags.dirty, mark options.touched key flags.touched,
    mark options.validate key flags.requested⟩

end Flags

/-! ## The store -/

/-- Why an operation on a sequence is refused. -/
inductive StoreError where
  | notASequence (path : Path)
  | outOfBounds (path : Path) (index length : Nat)
  | tooFar (path : Path) (index length : Nat)
  deriving DecidableEq

/-- The wording of the error. -/
def StoreError.message : StoreError → String
  | .notASequence path => s!"Value at '{path.key}' is not a sequence"
  | .outOfBounds path index length =>
    s!"Index {index} is out of bounds for '{path.key}' (length {length})"
  | .tooFar path index length =>
    s!"Index {index} under '{path.key}' is too far past the end of a sequence of length {length}"

/-- The edited document with what is known about its fields. -/
structure Store where
  document : Value
  flags : Flags
  feeds : List Feed

namespace Store

/-- A store over a document. -/
def ofDocument (document : Value) : Store := ⟨document, .empty, []⟩

/-- The value at a path. -/
def get? (store : Store) (path : Path) : Option Value := Document.read? store.document path

/-- Puts a new document in place after a write at `path`, with its marks and notices. -/
def commit (store : Store) (document : Value) (path : Path) (options : WriteOptions) : Store :=
  ⟨document, store.flags.record path.key options, Feed.publish store.feeds document path⟩

/-- Refuses a path that reaches too far behind the end of a sequence. -/
def checkPadding (store : Store) (path : Path) : Except StoreError Unit :=
  match Document.tooFar? (some store.document) path with
  | some far => .error (.tooFar path far.index far.length)
  | none => .ok ()

/-- Writes a value at a path, making containers on the way. -/
def set (store : Store) (path : Path) (value : Value) (options : WriteOptions) :
    Except StoreError Store := do
  store.checkPadding path
  .ok (store.commit (Document.write store.document path value) path options)

/-- Appends to the sequence at a path, which is made if there is nothing or null; the index of the
new element is returned. -/
def append (store : Store) (path : Path) (item : Value) : Except StoreError (Nat × Store) := do
  store.checkPadding path
  match store.get? path with
  | some (.arr items) =>
    .ok (items.length, store.commit
      (Document.write store.document path (.arr (items ++ [item]))) path .interactive)
  | none | some .null =>
    .ok (0, store.commit (Document.write store.document path (.arr [item])) path .interactive)
  | some _ => .error (.notASequence path)

/-- The sequence at a path. -/
def items (store : Store) (path : Path) : Except StoreError (List Value) :=
  match store.get? path with
  | some (.arr items) => .ok items
  | _ => .error (.notASequence path)

/-- Removes an element of the sequence at a path and returns it. -/
def remove (store : Store) (path : Path) (index : Nat) : Except StoreError (Value × Store) := do
  let items ← store.items path
  match items[index]? with
  | none => .error (.outOfBounds path index items.length)
  | some removed =>
    .ok (removed, store.commit
      (Document.write store.document path (.arr (items.eraseIdx index))) path .interactive)

/-- Moves an element of the sequence at a path; those in between shift by one. -/
def move (store : Store) (path : Path) (source target : Nat) : Except StoreError Store := do
  let items ← store.items path
  if items.length ≤ source then .error (.outOfBounds path source items.length)
  else if items.length ≤ target then .error (.outOfBounds path target items.length)
  else .ok (store.commit
    (Document.write store.document path (.arr (Document.moveItem items source target))) path
    .interactive)

/-- The document without the value at a path: a member goes, an element becomes null, and the whole
document becomes an empty object.  Nothing, if the parent is no container of the right kind. -/
def cleared? (store : Store) (path : Path) : Option Value :=
  match path.splitLast? with
  | none => some .emptyObject
  | some (parent, last) =>
    match store.get? parent, last with
    | some (.obj members), .key key =>
      some (Document.write store.document parent (.obj (Table.erase members key)))
    | some (.arr items), .index i =>
      some (Document.write store.document parent (.arr (items.set i .null)))
    | _, _ => none

/-- Clears a field.  Nothing at or below it stays dirty, and the field itself keeps no mark. -/
def reset (store : Store) (path : Path) : Store :=
  match store.cleared? path with
  | none => store
  | some document =>
    ⟨document,
      { dirty := store.flags.dirty.filter fun key => !Path.startsWith (Path.parse key) path
        touched := store.flags.touched.filter (· ≠ path.key)
        requested := store.flags.requested.filter (· ≠ path.key) },
      Feed.publish store.feeds document path⟩

/-- Subscribes to a path. -/
def watch (store : Store) (path : Path) : Watch × Store :=
  (⟨store.feeds.length, path, 0⟩,
    { store with feeds := store.feeds ++ [⟨path, store.get? path, 0, false⟩] })

/-- Whether a field is dirty. -/
def isDirty (store : Store) (path : Path) : Bool := store.flags.dirty.contains path.key

/-- Whether a field was touched. -/
def isTouched (store : Store) (path : Path) : Bool := store.flags.touched.contains path.key

/-- Whether a field is to be validated. -/
def isRequested (store : Store) (path : Path) : Bool := store.flags.requested.contains path.key

/-! ## Writes as data -/

/-- A write. -/
inductive Edit where
  | set (path : Path) (value : Value) (options : WriteOptions)
  | append (path : Path) (item : Value)
  | remove (path : Path) (index : Nat)
  | move (path : Path) (source target : Nat)
  | reset (path : Path)

/-- The store that a write leads to; a write that is refused leads nowhere. -/
def orSelf {ε : Type} (store : Store) (result : Except ε Store) : Store :=
  match result with
  | .ok next => next
  | .error _ => store

/-- The store after a write. -/
def edit (store : Store) : Edit → Store
  | .set path value options => store.orSelf (store.set path value options)
  | .append path item => store.orSelf ((store.append path item).map (·.2))
  | .remove path index => store.orSelf ((store.remove path index).map (·.2))
  | .move path source target => store.orSelf (store.move path source target)
  | .reset path => store.reset path

end Store

end SchemaForms
