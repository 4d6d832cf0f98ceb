import SchemaForms.Store.Document

/-!
# Store/Feed — watching a path

A feed is the store's side of a subscription: the value last published and how often it was
published.  A watch is the reader's side: it remembers the count it has seen.  Every write publishes
to the feeds whose path is related to the written one, whether or not their value differs.
-/

namespace SchemaForms

/-- The store's side of a subscription. -/
structure Feed where
  path : Path
  value : Option Value
  version : Nat
  /-- Whether the store is gone. -/
  closed : Bool

/-- The reader's side of a subscription: the position of its feed, and the version seen. -/
structure Watch where
  feed : Nat
  path : Path
  seen : Nat

namespace Feed

/-- Publishes to the feeds related to a written path. -/
def publish (feeds : List Feed) (document : Value) (path : Path) : List Feed :=
  feeds.map fun feed =>
    if Path.isRelated feed.path path then
      { feed with value := Document.read? document feed.path, version := feed.version + 1 }
    else feed

/-- The feeds of a store that is gone. -/
def closeAll (feeds : List Feed) : List Feed := feeds.map fun feed => { feed with closed := true }

end Feed

namespace Watch

/-- The feed of a watch. -/
def feed? (watch : Watch) (feeds : List Feed) : Option Feed := feeds[watch.feed]?

/-- The latest value. -/
def current (watch : Watch) (feeds : List Feed) : Option Value :=
  (watch.feed? feeds).bind (·.value)

/-- Whether something was published since the watch last looked; never once the store is gone. -/
def hasChanged (watch : Watch) (feeds : List Feed) : Bool :=
  match watch.feed? feeds with
  | some feed => !feed.closed && feed.version != watch.seen
  | none => false

/-- The watch after looking at everything published. -/
def markSeen (watch : Watch) (feeds : List Feed) : Watch :=
  { watch with seen := ((watch.feed? feeds).map (·.version)).getD watch.seen }

/-- What a reader that waits for the next write is told. -/
inductive Notice where
  /-- Something was published that had not been seen. -/
  | changed
  /-- The store is gone. -/
  | gone
  /-- Nothing yet. -/
  | waiting
  deriving DecidableEq

/-- Asks for the next write; one that is reported counts as seen. -/
def next (watch : Watch) (feeds : List Feed) : Watch × Notice :=
  match watch.feed? feeds with
  | some feed =>
    if feed.version != watch.seen then (watch.markSeen feeds, .changed)
    else if feed.closed then (watch, .gone) else (watch, .waiting)
  | none => (watch, .gone)

end Watch

end SchemaForms
