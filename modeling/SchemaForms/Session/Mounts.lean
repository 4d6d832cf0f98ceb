import SchemaForms.Session.Action
import SchemaForms.Session.Mount

/-!
# Session/Mounts — many mounts at once

Mounts of a session run side by side, and a person works on it meanwhile.  A step is what one of them
does without an interruption: a mount begins, the catalog answers it, it finds that the load it waits
for is over, it is given up; or the person acts.
-/

namespace SchemaForms

open Session (Action)

/-- How far a mount got. -/
inductive Attempt where
  /-- The catalog was asked for the schema of a block. -/
  | asks (mount : Mount) (name : String)
  /-- Another load for the same path is under way. -/
  | waits (mount : Mount)
  | ended (mode : EditMode)
  | dropped
  deriving DecidableEq

namespace Attempt

/-- How far a mount got when it had begun. -/
def ofStep : MountStep → Attempt
  | .done mode => .ended mode
  | .asks mount name => .asks mount name
  | .waits mount => .waits mount

/-- A mount whose schema has not come yet. -/
def mount? : Attempt → Option Mount
  | .asks mount _ | .waits mount => some mount
  | .ended _ | .dropped => none

end Attempt

/-- A session and its mounts, each known by its position. -/
structure Mounts where
  session : Session
  /-- All mounts that ever began. -/
  all : List Attempt

namespace Mounts

/-- What can happen. -/
inductive Event where
  /-- A mount begins. -/
  | mount (path : Path) (descriptor : Descriptor)
  /-- The catalog answers a mount. -/
  | answer (i : Nat) (found : Except FetchError Catalog.BlockSchema)
  /-- A mount that waits asks whether the load is over. -/
  | poll (i : Nat)
  | giveUp (i : Nat)
  | act (action : Action)

/-- A new session, without mounts. -/
def start (config : Config) (document : Value) : Mounts := ⟨.ofDocument config document, []⟩

/-- Goes on with a session, and with a mount that got further. -/
def advance (mounts : Mounts) (i : Nat) (session : Session) (attempt : Attempt) : Mounts :=
  ⟨session, mounts.all.set i attempt⟩

/-- A mount begins. -/
def begin (mounts : Mounts) (path : Path) (descriptor : Descriptor) : Mounts :=
  let (step, session) := mounts.session.beginMount path descriptor
  ⟨session, mounts.all ++ [.ofStep step]⟩

/-- The catalog answers a mount. -/
def answer (mounts : Mounts) (i : Nat) (found : Except FetchError Catalog.BlockSchema) : Mounts :=
  match mounts.all[i]? with
  | some (.asks mount _) =>
    let (mode, session) := mounts.session.answerMount mount (Session.loadOutcome found)
    mounts.advance i session (.ended mode)
  | _ => mounts

/-- A mount that waits asks whether the load is over. -/
def poll (mounts : Mounts) (i : Nat) : Mounts :=
  match mounts.all[i]? with
  | some (.waits mount) =>
    match mounts.session.pollMount mount with
    | some (mode, session) => mounts.advance i session (.ended mode)
    | none => mounts
  | _ => mounts

/-- A mount is given up, and with it the load that it runs. -/
def giveUp (mounts : Mounts) (i : Nat) : Mounts :=
  match mounts.all[i]? with
  | some (.asks mount _) => mounts.advance i (mounts.session.dropMount mount) .dropped
  | some (.waits _) => mounts.advance i mounts.session .dropped
  | _ => mounts

/-- One step.  An event that is not possible changes nothing. -/
def step (mounts : Mounts) : Event → Mounts
  | .mount path descriptor => mounts.begin path descriptor
  | .answer i found => mounts.answer i found
  | .poll i => mounts.poll i
  | .giveUp i => mounts.giveUp i
  | .act action => { mounts with session := mounts.session.act action }

/-- A run of steps. -/
def run (mounts : Mounts) (events : List Event) : Mounts := events.foldl step mounts

theorem run_append (mounts : Mounts) (front back : List Event) :
    mounts.run (front ++ back) = (mounts.run front).run back := List.foldl_append

end Mounts

end SchemaForms
