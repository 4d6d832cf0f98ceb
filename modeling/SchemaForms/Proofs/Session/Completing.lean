import SchemaForms.Proofs.Render.Opening
import SchemaForms.Proofs.Session.Hydrating

/-!
# Proofs/Session/Completing — hydration leaves nothing to be mounted

Below an editor whose schema is at hand, a round of mounting opens every block that lacks its schema
(`mountAll_opens`), and what then lacks a schema is deeper than before.  No block is shown deeper than
the levels there are, so as many rounds as there are levels are enough (`hydrateRounds_completes`),
and what they leave is shown again without another mount (`hydration_completes`).
-/

namespace SchemaForms

/-- An editor that knows its schema was not mounted for the block at its path. -/
theorem EditorState.isStale_of_inline {state : EditorState} {inner : Value}
    (h : state.descriptor.bind Descriptor.schema = some inner) (live : Option String) :
    state.isStale live = false := by
  obtain ⟨descriptor, hdescriptor, hschema⟩ := Option.bind_eq_some_iff.mp h
  simp [isStale, hdescriptor, Descriptor.isDerived, hschema]

namespace Session

open Render (Advancing Same Stage)
open Schema (Bare Proper)

variable {σ : Type} {answers : String → Except FetchError Catalog.BlockSchema}
  {source : Catalog.Source σ} {stage : Stage} {session before after : Session} {path : Path}
  {inner : Value}

/-- A session in which the editor of a stage is there. -/
structure OnStage (session : Session) (stage : Stage) : Prop where
  view : session.view = stage.view
  depth : session.config.maxRenderDepth = stage.maxRenderDepth
  keeps : stage.Keeps session.registry

/-! ## Rounds of mounting -/

/-- **What a mount that is answered at once leaves behind**: its schema is filed, and its editor has
learned of it. -/
structure AnsweredBy (before after : Session) (path : Path) (name : Option String)
    (outcome : LoadOutcome) : Prop where
  store : after.store = before.store
  config : after.config = before.config
  cache : after.registry.cache = (before.registry.cache.launch path.key).finish path
    (before.registry.cache.nextFlight path.key) outcome
  editor : ∃ recorded : EditorState, recorded.name = name ∧
    ∀ other, after.editor? other
      = if path.key = other.key then some (informed recorded (before.value? path) outcome)
        else before.editor? other

theorem answerMount_answeredBy (session : Session) (path : Path) (descriptor : Descriptor)
    (name : Option String) (outcome : LoadOutcome) :
    let cache := session.registry.cache
    AnsweredBy session (((session.recordMount path descriptor name).setCache
      (cache.launch path.key)).answerMount ⟨path, session.mounts + 1, cache.nextFlight path.key⟩
        outcome).2 path name outcome := by
  intro cache
  let recorded : EditorState := { session.editorAt path with
    name := name
    descriptor := some descriptor
    epoch := session.mounts + 1 }
  let finished := ((session.recordMount path descriptor name).setCache
    (cache.launch path.key)).setCache
      ((cache.launch path.key).finish path (cache.nextFlight path.key) outcome)
  have hrecorded : ∀ other, finished.editor? other
      = if path.key = other.key then some recorded else session.editor? other :=
    fun other => session.registry.editor?_setEditor path other recorded
  have hsettled : (finished.settle path recorded.epoch outcome).2
      = finished.setEditor path (informed recorded (session.value? path) outcome) := by
    unfold settle
    rw [hrecorded path, if_pos rfl]
    simp only [Option.filter, decide_true, if_true]
    rfl
  change AnsweredBy session (finished.settle path recorded.epoch outcome).2 path name outcome
  rw [hsettled]
  refine ⟨rfl, rfl, rfl, recorded, rfl, fun other => ?_⟩
  refine (finished.registry.editor?_setEditor path other _).trans (ite_congr rfl (fun _ => rfl) ?_)
  exact fun hne => (hrecorded other).trans (if_neg hne)

/-- An editor that learns of no schema shows a text. -/
theorem shownText?_informed {outcome : LoadOutcome} (h : Cache.schemaOf? outcome = none)
    (state : EditorState) (value : Option Value) :
    (informed state value outcome).shownText? ≠ none := by
  cases outcome with
  | error e => exact nofun
  | ok found =>
    cases found with
    | none => exact nofun
    | some schema => exact absurd h nofun

/-- **What the mount of a block leads to**: it is opened, and nothing is changed elsewhere. -/
structure OpenedBy (stage : Stage) (before after : Session) (head : ModuleHead) : Prop where
  onStage : after.OnStage stage
  opened : stage.Opened after.registry head
  rest : ∀ {path : Path}, head.path.key ≠ path.key → Same after.registry before.registry path

/-- **A block that lacks its schema is opened by the answer to its mount**, whatever the answer is. -/
theorem AnsweredBy.opens {entry : Nat × ModuleHead} {category : Category} {given : Option String}
    {outcome : LoadOutcome}
    (hanswered : AnsweredBy before after entry.2.path
      (before.askedName? entry.2.path category) outcome)
    (h : before.OnStage stage)
    (hlacks : stage.Lacks (stage.Under stage.top) before.registry entry)
    (hrole : entry.2.role = .block category given)
    (hproper : ∀ schema, Cache.schemaOf? outcome = some schema → Proper schema) :
    OpenedBy stage before after entry.2 := by
  obtain ⟨recorded, hname, heditor⟩ := hanswered.editor
  have hpeek : ∀ other, after.registry.cache.peek? other
      = if entry.2.path.key = other.key then Cache.schemaOf? outcome
        else before.registry.cache.peek? other := by
    rw [hanswered.cache]
    exact Cache.peek?_finish_launch hlacks.missing outcome
  have htop : entry.2.path.key ≠ stage.top.key := hlacks.inside.1
  have hkeeps : stage.Keeps after.registry := by
    refine ⟨?_, ((heditor _).trans (if_neg htop)).trans h.keeps.editor,
      ((hpeek _).trans (if_neg htop)).trans h.keeps.schema, fun {other host} hfitting hhost => ?_⟩
    · rw [hanswered.cache]
      exact Cache.inFlight_finish_launch h.keeps.idle _ _
    · rw [hpeek] at hhost
      split at hhost
      · exact hproper host hhost
      · exact h.keeps.proper hfitting hhost
  have hview : after.view = stage.view := by
    rw [← h.view, Session.view, Session.view, hanswered.store, hanswered.config]
  refine ⟨⟨hview, hanswered.config ▸ h.depth, hkeeps⟩, ?_, fun hne => ?_⟩
  · refine ⟨category, given, _, hrole, (heditor _).trans (if_pos rfl), ?_, ?_⟩
    · have hcontinues := continues_informed recorded (before.value? entry.2.path) outcome
      refine EditorState.isStale_of_name_eq (hcontinues.name.trans (hname.trans ?_))
      rw [askedName?_eq, h.view]
    · rw [hpeek, if_pos rfl]
      cases hschema : Cache.schemaOf? outcome with
      | none => exact .inl (shownText?_informed hschema _ _)
      | some schema => exact .inr nofun
  · exact hkeeps.same h.keeps ((heditor _).trans (if_neg hne)) ((hpeek _).trans (if_neg hne))

section

variable (hfixed : ∀ name state, (source.schema name state).2 = some (answers name))
  (hanswers : ∀ name found, answers name = .ok found → Proper found.schema)

include hfixed hanswers

/-- **A block that lacks its schema is opened by its mount**, whatever the catalog answers. -/
theorem mountNow_opens (h : session.OnStage stage) {entry : Nat × ModuleHead}
    (hlacks : stage.Lacks (stage.Under stage.top) session.registry entry) (state : σ) :
    ∃ mode next later,
      mountNow source entry.2.path (pendingDescriptor entry.2) session state
        = (some mode, next, later) ∧ OpenedBy stage session next entry.2 := by
  obtain ⟨category, given, hrole⟩ := hlacks.block
  have hdescriptor : pendingDescriptor entry.2 = .block category := by
    rw [pendingDescriptor, hrole]
  obtain ⟨mode, later, hmount⟩ :=
    mountNow_of_missing hfixed h.keeps.idle hlacks.missing category state
  rw [hdescriptor]
  exact ⟨mode, _, later, hmount, (answerMount_answeredBy _ _ _ _ _).opens h hlacks hrole
    fun schema hschema => (answered_learned hanswers _ schema hschema).1⟩

/-- **A round of mounting opens all blocks that lack their schema**, one after the other. -/
theorem mountAll_opens (entries : List (Nat × ModuleHead)) (session : Session)
    (h : session.OnStage stage)
    (hlacks : ∀ entry ∈ entries, stage.Lacks (stage.Under stage.top) session.registry entry)
    (hapart : (entries.map fun entry => entry.2.path.key).Nodup) (state : σ) :
    ∃ next later, mountAll source (entries.map (·.2)) session state = (true, next, later) ∧
      next.OnStage stage ∧
      stage.Served (fun _ => True) entries next.registry session.registry := by
  induction entries generalizing session state with
  | nil => exact ⟨session, state, rfl, h, List.forall_mem_nil _, fun path _ _ => .refl _ path⟩
  | cons entry entries ih =>
    obtain ⟨hfirst, hothers⟩ := List.forall_mem_cons.mp hlacks
    obtain ⟨hother, hapart⟩ := List.nodup_cons.mp hapart
    have hne : ∀ other ∈ entries, other.2.path.key ≠ entry.2.path.key := fun other hmem hkey =>
      hother (List.mem_map.mpr ⟨other, hmem, hkey⟩)
    obtain ⟨mode, mounted, between, hmount, hopened⟩ :=
      mountNow_opens hfixed hanswers h hfirst state
    have hstill : ∀ other ∈ entries,
        stage.Lacks (stage.Under stage.top) mounted.registry other := by
      intro other hmem
      have hsame := hopened.rest (Ne.symm (hne other hmem))
      exact { hothers other hmem with missing := hsame.schema.trans (hothers other hmem).missing }
    obtain ⟨next, later, hall, hnext, hserved⟩ := ih mounted hopened.onStage hstill hapart between
    refine ⟨next, later, ?_, hnext, ?_, fun path hfitting ⟨_, hnone⟩ => ?_⟩
    · rw [List.map_cons, mountAll, hmount]
      exact hall
    · have hsame := hserved.rest _ hfirst.fitting ⟨trivial, hne⟩
      exact List.forall_mem_cons.mpr ⟨hopened.opened.of_same hsame, hserved.opened⟩
    · obtain ⟨hkey, hnone⟩ := List.forall_mem_cons.mp hnone
      exact (hserved.rest path hfitting ⟨trivial, hnone⟩).trans (hopened.rest hkey)

end

/-! ## Rendering the editor -/

/-- The rendering of an editor by the schema that it knows. -/
def rendering (stage : Stage) (inner : Value) : Renderer Widget :=
  Render.module stage.view (Render.field stage.view (Render.roomAt stage.maxRenderDepth 0))
    ⟨none, stage.top, .object inner false, false⟩

/-- **The rendering of an editor whose schema is at hand advances.** -/
theorem advancing_rendering (stage : Stage) (hproper : Proper inner) :
    Advancing stage (stage.Under stage.top) (Widget.missing 0) (rendering stage inner) := by
  refine Render.advancing_module ⟨none, stage.top, .object inner false, false⟩
    (Render.advancing_field stage 0) (Nat.zero_le _) ⟨List.prefix_refl _, stage.fitting⟩ ?_
  rintro schema isItem hsubject
  obtain ⟨rfl, -⟩ := Subject.object.inj hsubject
  exact hproper

/-- What an editor shows whose schema is at hand. -/
theorem moduleOf_of_inline {state : EditorState} (heditor : session.editor? path = some state)
    (hinline : state.descriptor.bind Descriptor.schema = some inner) :
    session.moduleOf path = ⟨none, path, .object inner false, false⟩ := by
  obtain ⟨descriptor, hdescriptor, hschema⟩ := Option.bind_eq_some_iff.mp hinline
  rw [moduleOf, heditor, Option.bind_some, hdescriptor, Option.getD_some, subjectOf, hschema]

/-- A tree without missing schemas is what hydration ends with. -/
theorem hydrateRounds_of_settled (hnone : (session.render path).1.pendingModules = [])
    (rounds : Nat) (state : σ) :
    hydrateRounds source path rounds session state
      = (some (session.render path).1, (session.render path).2, state) := by
  cases rounds with
  | zero => rfl
  | succ rounds =>
    unfold hydrateRounds toMount
    dsimp only
    rw [hnone]
    rfl

section

variable (hinline : stage.state.descriptor.bind Descriptor.schema = some inner)
  (hproper : Proper inner)

include hinline

theorem OnStage.render_eq (h : session.OnStage stage) :
    session.render stage.top = session.runRenderer (rendering stage inner) := by
  rw [render, moduleOf_of_inline h.keeps.editor hinline, fieldAt, h.view, h.depth]
  rfl

/-- The editor itself does not lack its schema. -/
theorem OnStage.pos_of_mem_missing (h : session.OnStage stage) :
    ∀ entry ∈ (session.render stage.top).1.missing 0, 1 ≤ entry.1 := by
  rw [h.render_eq hinline]
  exact fun entry => Render.lt_of_top ⟨none, stage.top, .object inner false, false⟩ h.keeps rfl

include hproper

/-- **A rendering leaves the editor there.** -/
theorem OnStage.render (h : session.OnStage stage) :
    (session.render stage.top).2.OnStage stage := by
  rw [h.render_eq hinline]
  exact ⟨h.view, h.depth, (advancing_rendering stage hproper _ h.keeps).keeps⟩

/-- **What was rendered without missing schemas is rendered again.** -/
theorem OnStage.render_again (h : session.OnStage stage) :
    ((session.render stage.top).2.render stage.top).1 = (session.render stage.top).1 := by
  rw [(h.render hinline hproper).render_eq hinline, h.render_eq hinline]
  have hnow := advancing_rendering stage hproper _ h.keeps
  exact (hnow.replay hnow.keeps fun path _ _ => .refl _ path).1

variable (hfixed : ∀ name state, (source.schema name state).2 = some (answers name))
  (hanswers : ∀ name found, answers name = .ok found → Proper found.schema)

include hfixed hanswers

/-- **A round of mounting leaves only what is deeper.** -/
theorem OnStage.round (h : session.OnStage stage) {level : Nat}
    (hlevel : ∀ entry ∈ (session.render stage.top).1.missing 0, level ≤ entry.1)
    (hmissing : (session.render stage.top).1.pendingModules ≠ []) (state : σ) :
    ∃ (next : Session) (later : σ), next.OnStage stage ∧
      (∀ entry ∈ (next.render stage.top).1.missing 0, level + 1 ≤ entry.1) ∧
      ∀ rounds, hydrateRounds source stage.top (rounds + 1) session state
        = hydrateRounds source stage.top rounds next later := by
  have hnow := advancing_rendering stage hproper _ h.keeps
  have hrendered := h.render hinline hproper
  have hheads : toMount (session.render stage.top).2 (session.render stage.top).1
      = ((session.render stage.top).1.missing 0).map (·.2) := by
    rw [Widget.map_missing, toMount]
    refine List.filter_eq_self.mpr fun head _ => ?_
    rw [Cache.isLoading, hrendered.keeps.idle]
    rfl
  rw [← Widget.map_missing 0] at hmissing
  rw [h.render_eq hinline] at hlevel hheads hrendered hmissing
  obtain ⟨next, later, hall, hnext, hserved⟩ := mountAll_opens hfixed hanswers
    ((session.runRenderer (rendering stage inner)).1.missing 0) _ hrendered hnow.lacks hnow.apart state
  refine ⟨next, later, hnext, fun entry hentry => ?_, fun rounds => ?_⟩
  · rw [hnext.render_eq hinline] at hentry
    obtain ⟨old, hold, hlt⟩ := hnow.next hnext.keeps
      ⟨hserved.opened, hserved.rest.mono fun path hpath => ⟨trivial, hpath.2⟩⟩ entry hentry
    exact Nat.lt_of_le_of_lt (hlevel old hold) hlt
  · rw [hydrateRounds, h.render_eq hinline]
    dsimp only
    rw [hheads]
    split
    · rename_i hnil
      exact absurd hnil hmissing
    · rw [hall]

/-- **Enough rounds of mounting leave nothing to be mounted**, and more rounds change nothing. -/
theorem hydrateRounds_completes (rounds level : Nat) (session : Session) (h : session.OnStage stage)
    (hlevel : ∀ entry ∈ (session.render stage.top).1.missing 0, level ≤ entry.1)
    (henough : stage.maxRenderDepth + 2 ≤ level + rounds) (state : σ) :
    ∃ (last : Session) (later : σ), last.OnStage stage ∧
      (last.render stage.top).1.pendingModules = [] ∧
      ∀ more, hydrateRounds source stage.top (rounds + more) session state
        = (some (last.render stage.top).1, (last.render stage.top).2, later) := by
  by_cases hsettled : (session.render stage.top).1.pendingModules = []
  · exact ⟨session, state, h, hsettled, fun more => hydrateRounds_of_settled hsettled _ state⟩
  induction rounds generalizing level session state with
  | zero =>
    refine absurd ?_ hsettled
    rw [← Widget.map_missing 0, List.map_eq_nil_iff, List.eq_nil_iff_forall_not_mem]
    intro entry hentry
    have hle := hlevel entry hentry
    rw [h.render_eq hinline] at hentry
    have hbound := ((advancing_rendering stage hproper _ h.keeps).lacks entry hentry).level
    omega
  | succ rounds ih =>
    obtain ⟨next, between, hnext, hdeeper, hround⟩ :=
      h.round hinline hproper hfixed hanswers hlevel hsettled state
    have hrest : ∀ more, hydrateRounds source stage.top (rounds + 1 + more) session state
        = hydrateRounds source stage.top (rounds + more) next between := fun more => by
      rw [Nat.add_right_comm, hround]
    simp only [hrest]
    by_cases hnone : (next.render stage.top).1.pendingModules = []
    · exact ⟨next, between, hnext, hnone, fun more => hydrateRounds_of_settled hnone _ between⟩
    · exact ih (level + 1) next hnext hdeeper (by omega) between hnone

end

/-! ## Hydration -/

/-- The editor of an object is never dropped. -/
theorem currentEditor_inline (view : View) (registry : Registry) (path : Path) (inner : Value) :
    (Render.currentEditor view ⟨none, path, .object inner false, false⟩).run registry
      = (registry.editor? path, registry) := rfl

/-- The schema that an editor knows may be filed before it is rendered. -/
theorem render_seeded {state : EditorState} (heditor : session.editor? path = some state)
    (hinline : state.descriptor.bind Descriptor.schema = some inner)
    (hform : state.shownText? = none) :
    (session.setCache (session.registry.cache.seed path inner)).render path = session.render path := by
  let request : ModuleRequest := ⟨none, path, .object inner false, false⟩
  let filed : Registry :=
    { session.registry with cache := session.registry.cache.seed path inner }
  have hpeek := Render.peek?_seed_key session.registry.cache path path inner
  rw [if_pos rfl] at hpeek
  have hshown : (session.registry.editor? path).bind EditorState.shownText? = none := by
    rw [show session.registry.editor? path = some state from heditor]
    exact hform
  have hthen : (Render.module session.view (session.fieldAt 0) request).run session.registry = _ :=
    Render.run_module_form (currentEditor_inline _ _ path inner) hshown
      (Render.run_schemaFor_object rfl session.registry)
  have hfiled : (Render.module session.view (session.fieldAt 0) request).run filed = _ :=
    Render.run_module_form (currentEditor_inline _ _ path inner) hshown
      (Render.run_schemaFor_of_peek? hpeek)
  have hseeded : (session.setCache (session.registry.cache.seed path inner)).editor? path = some state :=
    heditor
  rw [render, render, moduleOf_of_inline heditor hinline, moduleOf_of_inline hseeded hinline]
  change Session.runRenderer _ (Render.module session.view (session.fieldAt 0) request) = _
  unfold runRenderer
  rw [hthen, show (Render.module session.view (session.fieldAt 0) request).run
    (session.setCache (session.registry.cache.seed path inner)).registry = _ from hfiled]
  rfl

/-- An editor that shows a text has no modules below it. -/
theorem render_shown {state : EditorState} {shown : Format × String × Option ParseError}
    (heditor : session.editor? path = some state)
    (hinline : state.descriptor.bind Descriptor.schema = some inner)
    (htext : state.shownText? = some shown) :
    ∃ widget, session.render path = (widget, session) ∧ widget.pendingModules = [] := by
  have hshown : (session.registry.editor? path).bind EditorState.shownText? = some shown := by
    rw [show session.registry.editor? path = some state from heditor]
    exact htext
  rw [render, moduleOf_of_inline heditor hinline, runRenderer,
    Render.run_module_source (currentEditor_inline _ _ path inner) hshown]
  exact ⟨_, rfl, rfl⟩

/-- A hydration depends on what is rendered. -/
theorem hydrateRounds_congr (h : before.render path = after.render path) (rounds : Nat) (state : σ) :
    hydrateRounds source path rounds before state = hydrateRounds source path rounds after state := by
  cases rounds with
  | zero => rw [hydrateRounds, hydrateRounds, h]
  | succ rounds => rw [hydrateRounds, hydrateRounds, h]

/-- A tree without missing schemas that is shown again is hydrated without a request. -/
theorem hydrate_of_settled {widget : Widget} (hnone : widget.pendingModules = [])
    (hagain : (session.render path).1 = widget) (state : σ) :
    ∃ last, session.hydrate source path state = (some widget, last, state) := by
  subst hagain
  exact ⟨_, hydrateRounds_of_settled hnone _ state⟩

/-- **Hydration completes.**  For an editor whose schema is at hand, in a session without loads under
way, with a catalog of fixed answers: the hydration ends with a tree in which no module lacks its
schema; as many rounds of mounting as it is allowed were enough, and more would change nothing; and
the hydration after it asks the catalog for nothing and ends with an equal tree.  The document and the
schemas are values as they are held in memory, and the indices of the path are words. -/
theorem hydration_completes {state : EditorState} {schema : Value}
    (hidle : session.registry.cache.inFlight = []) (hdocument : session.store.document.Regular)
    (hpath : ∀ segment ∈ path, Path.Fits segment) (heditor : session.editor? path = some state)
    (hinline : state.descriptor.bind Descriptor.schema = some schema) (hschema : Bare schema)
    (hfiled : ∀ other found, session.registry.cache.peek? other = some found → Bare found)
    (hfixed : ∀ name asked, (source.schema name asked).2 = some (answers name))
    (hanswers : ∀ name found, answers name = .ok found → Bare found.schema) (asked : σ) :
    ∃ widget final later,
      session.hydrate source path asked = (some widget, final, later) ∧
      widget.pendingModules = [] ∧
      (∀ more, hydrateRounds source path (session.config.maxRenderDepth + 1 + more) session asked
        = (some widget, final, later)) ∧
      ∀ {τ : Type} (other : Catalog.Source τ) (asked : τ),
        ∃ last, final.hydrate other path asked = (some widget, last, asked) := by
  cases htext : state.shownText? with
  | some shown =>
    obtain ⟨widget, hrender, hnone⟩ := render_shown heditor hinline htext
    have hrounds : ∀ rounds, hydrateRounds source path rounds session asked
        = (some widget, session, asked) := fun rounds => by
      rw [hydrateRounds_of_settled (by rw [hrender]; exact hnone), hrender]
    exact ⟨widget, session, asked, hrounds _, hnone, fun more => hrounds _, fun other asked =>
      hydrate_of_settled hnone (congrArg Prod.fst hrender) asked⟩
  | none =>
    let stage : Stage := ⟨session.view, session.config.maxRenderDepth, path, state,
      (session.registry.cache.peek? path).getD schema, hdocument, hpath,
      EditorState.isStale_of_inline hinline⟩
    let seeded := session.setCache (session.registry.cache.seed path schema)
    have hseeded : seeded.OnStage stage := by
      refine ⟨rfl, rfl, (Cache.inFlight_seed _ _ _).trans hidle, heditor,
        (Render.peek?_seed_key _ _ _ _).trans (if_pos rfl), fun hfitting hhost => ?_⟩
      exact Render.proper_seed hschema.proper (fun _ hfound => (hfiled _ _ hfound).proper) hfitting hhost
    have hproper := hschema.proper
    have henough : stage.maxRenderDepth + 2 ≤ 1 + (session.config.maxRenderDepth + 1) := by
      change session.config.maxRenderDepth + 2 ≤ _
      omega
    obtain ⟨last, later, hlast, hnone, hrounds⟩ := hydrateRounds_completes hinline hproper hfixed
      (fun name found hanswer => (hanswers name found hanswer).proper) _ 1 seeded hseeded
      (hseeded.pos_of_mem_missing hinline) henough asked
    have hsame := render_seeded heditor hinline htext
    have hall : ∀ more, hydrateRounds source path (session.config.maxRenderDepth + 1 + more) session asked
        = (some (last.render path).1, (last.render path).2, later) := fun more =>
      (hydrateRounds_congr hsame.symm _ asked).trans (hrounds more)
    exact ⟨_, _, later, hall 0, hnone, hall, fun other asked =>
      hydrate_of_settled hnone (hlast.render_again hinline hproper) asked⟩

/-- A block within a block, the second of which the catalog does not know: two rounds of mounting
are needed, which is as many as there are, and each asks the catalog once. -/
theorem hydration_completes_nested :
    let marked := Value.obj [("x-block-type", .str "trigger")]
    let catalog : Catalog := ⟨[(.trigger, [⟨"aTrigger", none, none,
      some (.obj [("type", .str "object"), ("properties", .obj [("inner", marked)])]), []⟩])], none⟩
    let source : Catalog.Source Nat :=
      { (catalog.source : Catalog.Source Nat) with
        schema := fun name asked => (asked + 1, some (catalog.schemaOf name)) }
    let document := Value.obj [("root", .obj [("trigger", .obj [("trigger", .str "a"),
      ("inner", .obj [("trigger", .str "b")])])])]
    let schema := Value.obj [("type", .str "object"), ("properties", .obj [("trigger", marked)])]
    let session := ((ofDocument { Config.default with policy := .alwaysRefetch, maxRenderDepth := 1 }
      document).beginMount Path.root (.inline schema)).2
    ((hydrateRounds source Path.root 1 session 0).1.any fun widget =>
        !widget.pendingModules.isEmpty) = true ∧
      ∃ widget final last, session.hydrate source Path.root 0 = (some widget, final, 2) ∧
        widget.pendingModules = [] ∧
        final.hydrate source Path.root 2 = (some widget, last, 2) := by
  intro marked catalog source document schema session
  obtain ⟨state, heditor, hinline⟩ : ∃ state, session.editor? Path.root = some state ∧
      state.descriptor.bind Descriptor.schema = some schema := ⟨_, rfl, rfl⟩
  have hpath : ∀ segment ∈ Path.root, Path.Fits segment := by decide
  have hschema : Bare schema := by decide +kernel
  have hentries : ∀ entry ∈ session.registry.cache.entries, Bare entry.2 := by decide +kernel
  have hfiled : ∀ other found, session.registry.cache.peek? other = some found → Bare found :=
    fun _ _ hfound => hentries _ (Table.mem_of_get? hfound)
  have hfixed : ∀ name asked, (source.schema name asked).2 = some (catalog.schemaOf name) :=
    fun _ _ => rfl
  obtain ⟨widget, final, later, hhydrate, hnone, -, hagain⟩ := hydration_completes rfl
    (by decide +kernel) hpath heditor hinline hschema hfiled hfixed (bare_schemaOf (by decide)) 0
  have hasked : (session.hydrate source Path.root 0).2.2 = 2 := by decide +kernel
  obtain ⟨last, hlast⟩ := hagain source 2
  rw [hhydrate] at hasked
  obtain rfl : later = 2 := hasked
  exact ⟨by decide +kernel, widget, final, last, hhydrate, hnone, hlast⟩

end Session

end SchemaForms
