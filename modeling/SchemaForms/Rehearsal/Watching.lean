import SchemaForms.Store.Basic

/-!
# Rehearsal/Watching — a store and those who watch it

Those who watch a path of a store have names.  The store can go before they do; they keep the value
published last.
-/

namespace SchemaForms

/-- A store that may be gone, what it published, and those who watch. -/
structure Watching where
  store : Option Store
  feeds : List Feed
  watches : List (String × Watch)

namespace Watching

/-- A store that nobody watches. -/
def start (store : Store) : Watching := ⟨some store, store.feeds, []⟩

/-- Goes on with a store. -/
def withStore (watching : Watching) (store : Store) : Watching :=
  { watching with store := some store, feeds := store.feeds }

/-- Gives a watch a name. -/
def keep (watching : Watching) (id : String) (watch : Watch) : Watching :=
  { watching with watches := Table.insert watching.watches id watch }

/-- The watch with a name. -/
def find? (watching : Watching) (id : String) : Option Watch := Table.get? watching.watches id

/-- Begins to watch a path. -/
def watch (watching : Watching) (store : Store) (id : String) (path : Path) : Watching :=
  let (watch, store) := store.watch path
  (watching.withStore store).keep id watch

/-- Ends a watch. -/
def unwatch (watching : Watching) (id : String) : Watching :=
  { watching with watches := Table.erase watching.watches id }

/-- Whether something was published that a watch has not seen. -/
def hasChanged (watching : Watching) (watch : Watch) : Bool := watch.hasChanged watching.feeds

/-- The value that a watch shows. -/
def current (watching : Watching) (watch : Watch) : Option Value := watch.current watching.feeds

/-- A watch looks at everything published. -/
def mark (watching : Watching) (id : String) (watch : Watch) : Watch × Watching :=
  let seen := watch.markSeen watching.feeds
  (seen, watching.keep id seen)

/-- A watch asks for the next write. -/
def next (watching : Watching) (id : String) (watch : Watch) : Watch.Notice × Watching :=
  let (watch, notice) := watch.next watching.feeds
  (notice, watching.keep id watch)

/-- The store goes. -/
def dropStore (watching : Watching) : Watching :=
  { watching with store := none, feeds := Feed.closeAll watching.feeds }

/-! ## One thing after another -/

/-- What happens while the store is there. -/
inductive Act where
  /-- A write. -/
  | edit (edit : Store.Edit)
  /-- Someone begins to watch a path, under a name. -/
  | watch (id : String) (path : Path)
  /-- Someone looks at everything published. -/
  | mark (id : String)

/-- What one act does. -/
def act (watching : Watching) : Act → Watching
  | .edit edit =>
    match watching.store with
    | some store => watching.withStore (store.edit edit)
    | none => watching
  | .watch id path =>
    match watching.store with
    | some store => watching.watch store id path
    | none => watching
  | .mark id =>
    match watching.find? id with
    | some watch => (watching.mark id watch).2
    | none => watching

/-- A run of acts. -/
def run (watching : Watching) (acts : List Act) : Watching := acts.foldl act watching

/-- The value that is shown under a name. -/
def shown (watching : Watching) (id : String) : Option Value :=
  (watching.find? id).bind watching.current

/-- Whether something is announced under a name that was not looked at. -/
def announces (watching : Watching) (id : String) : Bool :=
  (watching.find? id).any watching.hasChanged

end Watching

end SchemaForms
