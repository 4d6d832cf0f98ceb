import SchemaForms.Catalog.Basic
import SchemaForms.Session.Basic

/-!
# Session/Mount — getting the schema of a module

A mount records what an editor is to show and gets the schema through the cache: from the descriptor,
from the catalog under the block's name, or from another load for the same path.  The schema may come
long after the mount began.  If the editor is gone by then, or a newer mount of it has begun, its
coming changes no editor.  An editor that is left without a schema falls back to JSON text.
-/

namespace SchemaForms

/-- A mount whose schema has not come yet. -/
structure Mount where
  path : Path
  /-- The number of the mount. -/
  epoch : Nat
  /-- The load that brings the schema. -/
  flight : Flight
  deriving DecidableEq

/-- How far a mount got. -/
inductive MountStep where
  | done (mode : EditMode)
  /-- The schema of a block has to be fetched. -/
  | asks (mount : Mount) (name : String)
  /-- Another load for the same path is under way. -/
  | waits (mount : Mount)

namespace Session

/-- The state of an editor that learns what became of its schema. -/
def informed (state : EditorState) (value : Option Value) : LoadOutcome → EditorState
  | .ok (some _) => { state with fetchError := none }
  | .ok none => state.enterText .json value
  | .error e => { state with fetchError := some e }.enterText .json value

/-- Tells the editor of a mount what became of its schema, and returns the mode that it is in. -/
def settle (session : Session) (path : Path) (epoch : Nat) (outcome : LoadOutcome) :
    EditMode × Session :=
  match (session.editor? path).filter (·.epoch = epoch) with
  | none => (.structured, session)
  | some state =>
    let state := informed state (session.value? path) outcome
    (state.mode, session.setEditor path state)

/-- Finishes the load of a mount. -/
def answerMount (session : Session) (mount : Mount) (outcome : LoadOutcome) : EditMode × Session :=
  (session.setCache (session.registry.cache.finish mount.path mount.flight outcome)).settle
    mount.path mount.epoch outcome

/-- Asks whether the load that a mount waits for is over. -/
def pollMount (session : Session) (mount : Mount) : Option (EditMode × Session) :=
  (session.registry.cache.outcome? mount.path mount.flight.ticket).map
    (session.settle mount.path mount.epoch)

/-- Gives up the load of a mount. -/
def dropMount (session : Session) (mount : Mount) : Session :=
  session.setCache (session.registry.cache.drop mount.path mount.flight)

/-- Files that a mount has begun. -/
def recordMount (session : Session) (path : Path) (descriptor : Descriptor)
    (name : Option String) : Session :=
  { session.setEditor path { session.editorAt path with
      name := name
      descriptor := some descriptor
      epoch := session.mounts + 1 } with
    mounts := session.mounts + 1 }

/-- Begins to mount the editor at a path. -/
def beginMount (session : Session) (path : Path) (descriptor : Descriptor) :
    MountStep × Session :=
  let name := descriptor.blockName? (session.value? path)
  let session := session.recordMount path descriptor name
  let (plan, cache) := session.registry.cache.request path
  let session := session.setCache cache
  match plan with
  | .hit schema =>
    let (mode, session) := session.settle path session.mounts (.ok (some schema))
    (.done mode, session)
  | .wait flight => (.waits ⟨path, session.mounts, flight⟩, session)
  | .load flight =>
    let mount : Mount := ⟨path, session.mounts, flight⟩
    match descriptor.schema, name with
    | some schema, _ =>
      let (mode, session) := session.answerMount mount (.ok (some schema))
      (.done mode, session)
    | none, some name => (.asks mount name, session)
    | none, none =>
      let (mode, session) := session.answerMount mount (.ok none)
      (.done mode, session)

/-- What the answer of a catalog means for a load. -/
def loadOutcome (answer : Except FetchError Catalog.BlockSchema) : LoadOutcome :=
  answer.map fun found => some found.schema

end Session

end SchemaForms
