import SchemaForms.Rehearsal.Supply
import SchemaForms.Session.Description
import SchemaForms.Session.Hydration

/-!
# Rehearsal/Basic — a session together with its catalog

A rehearsal plays a session against a catalog whose answers can be held back.  The mounts that wait
for such an answer have names, so that they can be resumed or given up in any order.  The tree that
was shown last is kept, because the controls of a session are those of a tree.
-/

namespace SchemaForms

/-- A mount that has not been answered. -/
inductive Mounting where
  /-- It waits for its own call to the catalog. -/
  | fetching (mount : Mount) (name : String)
  /-- It waits for another load of the same path. -/
  | joining (mount : Mount)

/-- A session, its catalog, and what is under way. -/
structure Rehearsal where
  session : Session
  supply : Supply
  mounting : List (String × Mounting)
  /-- The tree shown last. -/
  tree : Option Widget

namespace Rehearsal

/-- A rehearsal in which nothing has happened. -/
def start (session : Session) (supply : Supply) : Rehearsal := ⟨session, supply, [], none⟩

/-- Goes on with a session. -/
def withSession (rehearsal : Rehearsal) (session : Session) : Rehearsal :=
  { rehearsal with session := session }

/-- Goes on with a session and a supply. -/
def withBoth (rehearsal : Rehearsal) (session : Session) (supply : Supply) : Rehearsal :=
  { rehearsal with session := session, supply := supply }

/-! ## Trees -/

/-- Keeps a tree that is shown. -/
def shown (rehearsal : Rehearsal) (widget : Widget) : Widget × Rehearsal :=
  (widget, { rehearsal with tree := some widget })

/-- Shows the editor at a path. -/
def render (rehearsal : Rehearsal) (path : Path) : Widget × Rehearsal :=
  let (widget, session) := rehearsal.session.render path
  (rehearsal.withSession session).shown widget

/-- Shows the editor at a path with everything below it mounted; without a tree, if a mount would
have to wait. -/
def hydrate (rehearsal : Rehearsal) (path : Path) : Option Widget × Rehearsal :=
  let (widget, session, supply) :=
    Session.hydrate Supply.source path rehearsal.session rehearsal.supply
  let rehearsal := rehearsal.withBoth session supply
  match widget with
  | some widget => (some widget, (rehearsal.shown widget).2)
  | none => (none, rehearsal)

/-- The widget at a path of the tree shown last. -/
def find? (rehearsal : Rehearsal) (path : Path) : Option Widget :=
  rehearsal.tree.bind fun tree => tree.find? path

/-- The controls of the tree shown last. -/
def affordances (rehearsal : Rehearsal) : List Affordance :=
  (rehearsal.tree.map Widget.affordances).getD []

/-! ## Controls -/

/-- Activates a control: nothing is left to choose, or a picker is open. -/
def activate (rehearsal : Rehearsal) (add : Affordance) :
    Except EditError (Option Catalog.Picker) × Rehearsal :=
  match rehearsal.session.activate Supply.source add rehearsal.supply with
  | (.error e, supply) => (.error e, { rehearsal with supply := supply })
  | (.ok (.appended session), supply) => (.ok none, rehearsal.withBoth session supply)
  | (.ok (.choice picker), supply) => (.ok (some picker), { rehearsal with supply := supply })

/-- Inserts a block and returns its path. -/
def insert (rehearsal : Rehearsal) (insertion : Insertion) (definition : Catalog.Definition) :
    Except EditError Path × Rehearsal :=
  match rehearsal.session.insertBlock insertion definition with
  | .ok (path, session) => (.ok path, rehearsal.withSession session)
  | .error e => (.error e, rehearsal)

/-- Opens a picker for an insertion, chooses a block by its name, and inserts it; without a path, if
the catalog does not list the block. -/
def choose (rehearsal : Rehearsal) (insertion : Insertion) (name : String) :
    Except EditError (Option Path) × Rehearsal :=
  let (picker, supply) :=
    Catalog.Picker.openFrom Supply.source insertion.category rehearsal.supply
  let rehearsal := { rehearsal with supply := supply }
  match picker.select? name with
  | none => (.ok none, rehearsal)
  | some definition =>
    let (answer, rehearsal) := rehearsal.insert insertion definition
    (answer.map some, rehearsal)

end Rehearsal

end SchemaForms
