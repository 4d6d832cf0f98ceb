import SchemaForms.Session.Mount

/-!
# Session/Hydration — mounting until nothing is missing

Rendering shows which modules lack a schema; these are mounted and the tree is rendered again, for as
many rounds as there are levels.  A catalog that keeps one of the mounts waiting ends the hydration
there, and that mount is given up.
-/

namespace SchemaForms.Session

variable {σ : Type}

/-- Mounts an editor to the end; without a mode, if it would have to wait. -/
def mountNow (source : Catalog.Source σ) (path : Path) (descriptor : Descriptor)
    (session : Session) (state : σ) : Option EditMode × Session × σ :=
  match session.beginMount path descriptor with
  | (.done mode, session) => (some mode, session, state)
  | (.waits _, session) => (none, session, state)
  | (.asks mount name, session) =>
    match source.schema name state with
    | (state, none) => (none, session.dropMount mount, state)
    | (state, some answer) =>
      let (mode, session) := session.answerMount mount (loadOutcome answer)
      (some mode, session, state)

/-- What is known about a module that lacks its schema. -/
def pendingDescriptor (head : ModuleHead) : Descriptor :=
  match head.role with
  | .block category _ => .block category
  | _ => .unknown

/-- Mounts modules one after the other, and says whether none had to wait. -/
def mountAll (source : Catalog.Source σ) : List ModuleHead → Session → σ → Bool × Session × σ
  | [], session, state => (true, session, state)
  | head :: heads, session, state =>
    match mountNow source head.path (pendingDescriptor head) session state with
    | (some _, session, state) => mountAll source heads session state
    | (none, session, state) => (false, session, state)

/-- The modules of a tree that lack a schema and have no load under way. -/
def toMount (session : Session) (widget : Widget) : List ModuleHead :=
  widget.pendingModules.filter fun head => !session.registry.cache.isLoading head.path

/-- Renders, and mounts what is missing for a number of rounds. -/
def hydrateRounds (source : Catalog.Source σ) (path : Path) :
    Nat → Session → σ → Option Widget × Session × σ
  | 0, session, state =>
    let (widget, session) := session.render path
    (some widget, session, state)
  | rounds + 1, session, state =>
    let (widget, session) := session.render path
    match session.toMount widget with
    | [] => (some widget, session, state)
    | heads =>
      match mountAll source heads session state with
      | (true, session, state) => hydrateRounds source path rounds session state
      | (false, session, state) => (none, session, state)

/-- Renders the editor at a path and mounts the modules below it until none lacks its schema; without
a tree, if a mount would have to wait. -/
def hydrate (source : Catalog.Source σ) (path : Path) (session : Session) (state : σ) :
    Option Widget × Session × σ :=
  hydrateRounds source path (session.config.maxRenderDepth + 1) session state

/-- The schema of the whole document; a definition without one leaves it empty. -/
def rootSchema (definition : Catalog.Definition) : Value := definition.schema.getD .emptyObject

/-- Fetches the definition of the whole document and begins to mount the editor at the root. -/
def openRoot (source : Catalog.Source σ) (session : Session) (state : σ) :
    Except FetchError MountStep × Session × σ :=
  match source.root state with
  | (state, .error e) => (.error e, session, state)
  | (state, .ok definition) =>
    let (step, session) := session.beginMount Path.root (.inline (rootSchema definition))
    (.ok step, session, state)

end SchemaForms.Session
