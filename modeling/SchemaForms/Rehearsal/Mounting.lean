import SchemaForms.Rehearsal.Basic

/-!
# Rehearsal/Mounting — mounts that wait

A mount that has to wait is kept under a name.  It can be resumed, which asks again, or given up,
which drops the load that it runs; a mount that begins under the same name makes it give up first.
Every function returns the mode that the editor is in, or none while the mount waits.
-/

namespace SchemaForms.Rehearsal

/-- Forgets a mount. -/
def forget (rehearsal : Rehearsal) (id : String) : Rehearsal :=
  { rehearsal with mounting := Table.erase rehearsal.mounting id }

/-- Gives out permits for a schema that is held back. -/
def release (rehearsal : Rehearsal) (name : String) (count : Nat) : Rehearsal :=
  { rehearsal with supply := rehearsal.supply.release name count }

/-- Gives up a mount. -/
def giveUp (rehearsal : Rehearsal) (id : String) : Rehearsal :=
  match Table.get? rehearsal.mounting id with
  | some (.fetching mount _) =>
    (rehearsal.withSession (rehearsal.session.dropMount mount)).forget id
  | some (.joining _) => rehearsal.forget id
  | none => rehearsal

/-- Keeps a mount that has to wait. -/
def keep (rehearsal : Rehearsal) (id : String) (mounting : Mounting) :
    Option EditMode × Rehearsal :=
  (none, { rehearsal with mounting := Table.insert rehearsal.mounting id mounting })

/-- Begins to mount the editor at a path. -/
def mount (rehearsal : Rehearsal) (id : String) (path : Path) (descriptor : Descriptor) :
    Option EditMode × Rehearsal :=
  let rehearsal := rehearsal.giveUp id
  match rehearsal.session.beginMount path descriptor with
  | (.done mode, session) => (some mode, rehearsal.withSession session)
  | (.waits mount, session) => (rehearsal.withSession session).keep id (.joining mount)
  | (.asks mount name, session) =>
    match rehearsal.supply.askSchema name with
    | (supply, some answer) =>
      let (mode, session) := session.answerMount mount (Session.loadOutcome answer)
      (some mode, rehearsal.withBoth session supply)
    | (supply, none) => (rehearsal.withBoth session supply).keep id (.fetching mount name)

/-- Forgets a mount that is over. -/
def finish (rehearsal : Rehearsal) (id : String) (result : EditMode × Session) :
    Option EditMode × Rehearsal :=
  (some result.1, (rehearsal.withSession result.2).forget id)

/-- Asks again about a mount that waits. -/
def resume (rehearsal : Rehearsal) (id : String) (mounting : Mounting) :
    Option EditMode × Rehearsal :=
  match mounting with
  | .joining mount =>
    match rehearsal.session.pollMount mount with
    | some result => rehearsal.finish id result
    | none => (none, rehearsal)
  | .fetching mount name =>
    match rehearsal.supply.obtain? name with
    | none => (none, rehearsal)
    | some (answer, supply) =>
      { rehearsal with supply := supply }.finish id
        (rehearsal.session.answerMount mount (Session.loadOutcome answer))

/-- Fetches the definition of the whole document and mounts the editor at the root; without a mode,
if it would have to wait. -/
def openRoot (rehearsal : Rehearsal) : Except FetchError (Option EditMode) × Rehearsal :=
  let (answer, session, supply) :=
    Session.openRoot Supply.source rehearsal.session rehearsal.supply
  let rehearsal := rehearsal.withBoth session supply
  match answer with
  | .error e => (.error e, rehearsal)
  | .ok (.done mode) => (.ok (some mode), rehearsal)
  | .ok _ => (.ok none, rehearsal)

end SchemaForms.Rehearsal
