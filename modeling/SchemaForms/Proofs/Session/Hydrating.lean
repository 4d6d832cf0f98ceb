import SchemaForms.Proofs.Cache.Filing
import SchemaForms.Proofs.Render.Fields
import SchemaForms.Proofs.Session.Mounting
import SchemaForms.Session.Hydration

/-!
# Proofs/Session/Hydrating — hydration files every schema where it belongs

With a catalog whose answers are fixed, every mount comes to its end, and the schema that it files
is the answer to the name that its editor recorded (`mountNow_spec`).  So hydration keeps every
schema where it belongs, always ends with a tree, and this tree is rendered from a session in which
every schema belongs where it is (`hydrate_spec`).
-/

namespace SchemaForms

/-- A catalog that always gives the same answers, and gives them at once. -/
structure Catalog.Source.Fixed {σ : Type} (source : Catalog.Source σ)
    (answers : String → Except FetchError Catalog.BlockSchema) (definition : Catalog.Definition) :
    Prop where
  schema : ∀ name state, (source.schema name state).2 = some (answers name)
  root : ∀ state, (source.root state).2 = .ok definition

namespace Cache

variable {cache : Cache}

/-- **A cache without loads under way is to load what is missing**, whatever its policy. -/
theorem request_of_missing (hidle : cache.inFlight = []) {path : Path}
    (hmissing : cache.peek? path = none) :
    cache.request path = (.load (cache.nextFlight path.key), cache.launch path.key) := by
  have hget : Table.get? cache.entries path.key = none := hmissing
  unfold request
  dsimp only
  rw [hidle, hget, ite_self]
  rfl

/-- **A cache without loads under way** has the schema, or is to load it. -/
theorem request_of_idle (hpolicy : cache.policy = .reuse) (hidle : cache.inFlight = [])
    (path : Path) :
    (∃ schema, cache.peek? path = some schema ∧ cache.request path = (.hit schema, cache)) ∨
    (cache.peek? path = none ∧
      cache.request path = (.load (cache.nextFlight path.key), cache.launch path.key)) := by
  cases hfound : cache.peek? path with
  | some schema =>
    refine .inl ⟨schema, rfl, ?_⟩
    have hget : Table.get? cache.entries path.key = some schema := hfound
    unfold request
    dsimp only
    rw [if_pos hpolicy, hget]
  | none => exact .inr ⟨rfl, request_of_missing hidle hfound⟩

end Cache

/-- An editor that was mounted for the block at its path is not stale. -/
theorem EditorState.isStale_of_name_eq {state : EditorState} {live : Option String}
    (h : state.name = live) : state.isStale live = false := by
  simp [isStale, h]

namespace Session

open Schema (Bare Proper)
open Render (Same)

variable {σ : Type} {answers : String → Except FetchError Catalog.BlockSchema} {path : Path}
  {category : Category} {before after session : Session}

/-- What a catalog in memory answers is what its blocks come with. -/
theorem bare_schemaOf {catalog : Catalog}
    (h : ∀ block ∈ catalog.blocks.flatMap (·.2), Bare (block.schema.getD .emptyObject))
    (name : String) (found : Catalog.BlockSchema) (hfound : catalog.schemaOf name = .ok found) :
    Bare found.schema := by
  unfold Catalog.schemaOf at hfound
  split at hfound
  · rename_i block hblock
    obtain rfl := Except.ok.inj hfound
    exact h block (List.mem_of_find?_eq_some hblock)
  · exact absurd hfound nofun

/-- Every schema that is filed in a session belongs where it is. -/
def Keeps (answers : String → Except FetchError Catalog.BlockSchema) (session : Session) : Prop :=
  Consistent session.config.maxRefDepth answers session.registry

/-- The name under which a mount asks for the block at a path. -/
def askedName? (session : Session) (path : Path) (category : Category) : Option String :=
  (Descriptor.block category).blockName? (session.value? path)

/-- A mount asks for the block that the document holds. -/
theorem askedName?_eq (session : Session) (path : Path) (category : Category) :
    session.askedName? path category = Render.liveName? session.view path category := by
  unfold askedName? Render.liveName?
  change _ = (session.value? path).bind _
  cases session.value? path <;> rfl

/-- **A block that may be mounted**: it is at its place, and a schema that is there already was
asked for under the name that the document gives now. -/
structure Ready (session : Session) (path : Path) (category : Category) : Prop where
  rooted : Path.Rooted path
  hosted : Hosted session.config.maxRefDepth session.registry path (.block category)
  current : ∀ schema, session.registry.cache.peek? path = some schema →
    ∃ state, session.editor? path = some state ∧ state.name = session.askedName? path category

/-- **What a mount leads to**: the document is as it was, the editors and schemas of all other paths
too, and no schema went away. -/
structure Mounted (answers : String → Except FetchError Catalog.BlockSchema)
    (before after : Session) (path : Path) (category : Category) : Prop where
  store : after.store = before.store
  config : after.config = before.config
  keeps : Keeps answers after
  kept : ∀ {other : Path} {schema : Value}, Path.Rooted other →
    before.registry.cache.peek? other = some schema → after.registry.cache.peek? other = some schema
  apart : ∀ {other : Path}, Path.Rooted other → other ≠ path →
    after.editor? other = before.editor? other ∧
      after.registry.cache.peek? other = before.registry.cache.peek? other
  named : ∃ state, after.editor? path = some state ∧
    state.descriptor = some (.block category) ∧ state.name = before.askedName? path category

/-- **A mount leaves all other blocks ready.** -/
theorem Ready.later {other : Path} {kind : Category} (h : Ready before other kind)
    (hkeeps : Keeps answers before) (hmounted : Mounted answers before after path category)
    (hpath : Hosted before.config.maxRefDepth before.registry path (.block category)) :
    Ready after other kind := by
  have hasked : after.askedName? other kind = before.askedName? other kind := by
    unfold askedName? value?
    rw [hmounted.store]
  refine ⟨h.rooted, ?_, fun schema hschema => ?_⟩
  · rw [hmounted.config]
    exact h.hosted.of_same fun base _ hbase host hhost => hmounted.kept hbase hhost
  · rw [hasked]
    by_cases hother : other = path
    · subst hother
      obtain rfl := Render.Place.block.inj (hkeeps.hosted_unique h.hosted hpath)
      obtain ⟨state, hstate, -, hname⟩ := hmounted.named
      exact ⟨state, hstate, hname⟩
    · obtain ⟨heditor, hpeek⟩ := hmounted.apart h.rooted hother
      obtain ⟨state, hstate, hname⟩ := h.current schema (hpeek.symm.trans hschema)
      exact ⟨state, heditor.trans hstate, hname⟩

/-! ## The parts of a mount -/

theorem key_ne_of_ne {other : Path} (hother : Path.Rooted other) (hne : other ≠ path) :
    path.key ≠ other.key := fun hkey => hne (hother.key_inj hkey).symm

/-- **What is recorded first** about a block that may be mounted. -/
theorem mounted_recordMount (h : Keeps answers session) (hready : Ready session path category) :
    Mounted answers session
      (session.recordMount path (.block category) (session.askedName? path category))
      path category where
  store := rfl
  config := rfl
  keeps := by
    refine h.recorded hready.hosted rfl fun schema hschema => ?_
    obtain ⟨state, hstate, hname⟩ := hready.current schema hschema
    exact ⟨state, hstate, hname.symm⟩
  kept _ hschema := hschema
  apart {other} hother hne :=
    ⟨(session.registry.editor?_setEditor path other _).trans (if_neg (key_ne_of_ne hother hne)), rfl⟩
  named := ⟨_, (session.registry.editor?_setEditor path path _).trans (if_pos rfl), rfl, rfl⟩

/-- The end of a mount keeps every schema where it belongs. -/
theorem Keeps.settle (h : Keeps answers session) (path : Path) (epoch : Nat)
    (outcome : LoadOutcome) :
    Keeps answers (session.settle path epoch outcome).2 := by
  rcases settle_cases session path epoch outcome with hsame | ⟨state, hstate, hnext⟩
  · rw [hsame]
    exact h
  · rw [hnext]
    exact h.wentOn hstate

/-- **A load that is answered at once keeps every schema where it belongs**, if what it comes to
belongs at its path. -/
theorem Keeps.finished (h : Keeps answers session)
    (hmissing : session.registry.cache.peek? path = none) {outcome : LoadOutcome}
    (hfiled : ∀ schema, Cache.schemaOf? outcome = some schema → Proper schema ∧ (path ≠ Path.root →
      ∃ place, Hosted session.config.maxRefDepth session.registry path place ∧
        Explains answers session.registry path schema place)) :
    Keeps answers (session.setCache ((session.registry.cache.launch path.key).finish path
      (session.registry.cache.nextFlight path.key) outcome)) := by
  obtain ⟨hpolicy, hidle, hpeek⟩ := Cache.finish_launch h.idle hmissing outcome
  exact h.file hmissing hfiled (hpolicy.trans h.policy) hidle hpeek

/-- The end of a mount leaves its editor with what was recorded. -/
theorem Mounted.settle (h : Mounted answers before after path category) (epoch : Nat)
    (outcome : LoadOutcome) :
    Mounted answers before (after.settle path epoch outcome).2 path category := by
  rcases settle_cases after path epoch outcome with hsame | ⟨state, hstate, hnext⟩
  · rw [hsame]
    exact h
  · rw [hnext]
    obtain ⟨old, hold, hdescriptor, hname⟩ := h.named
    have hcontinues : state.Continues old := by rwa [editorAt, hold] at hstate
    refine ⟨h.store, h.config, h.keeps.wentOn hstate, h.kept, fun hother hne => ?_, ?_⟩
    · obtain ⟨heditor, hpeek⟩ := h.apart hother hne
      exact ⟨(after.registry.editor?_setEditor path _ _).trans
        ((if_neg (key_ne_of_ne hother hne)).trans heditor), hpeek⟩
    · exact ⟨state, (after.registry.editor?_setEditor path path _).trans (if_pos rfl),
        hcontinues.descriptor.trans hdescriptor, hcontinues.name.trans hname⟩

/-- A schema that a load comes to is what the catalog answers to the name that was recorded. -/
def Answered (answers : String → Except FetchError Catalog.BlockSchema) (name : Option String)
    (outcome : LoadOutcome) : Prop :=
  ∀ schema, Cache.schemaOf? outcome = some schema →
    Proper schema ∧
      ∃ asked found, name = some asked ∧ answers asked = .ok found ∧ found.schema = schema

theorem answered_loadOutcome
    (hanswers : ∀ name found, answers name = .ok found → Proper found.schema)
    (name : String) : Answered answers (some name) (loadOutcome (answers name)) := by
  intro schema hschema
  cases hanswer : answers name with
  | error e =>
    rw [hanswer] at hschema
    exact absurd hschema nofun
  | ok found =>
    rw [hanswer] at hschema
    obtain rfl := Option.some.inj hschema
    exact ⟨hanswers name found hanswer, name, found, rfl, hanswer, rfl⟩

/-- **The answer to a load is filed** under the editor that asked for it. -/
theorem Mounted.answered (h : Mounted answers before after path category)
    (hhosted : Hosted before.config.maxRefDepth before.registry path (.block category))
    (hmissing : after.registry.cache.peek? path = none) {outcome : LoadOutcome}
    (hanswered : Answered answers (before.askedName? path category) outcome) (epoch : Nat) :
    Mounted answers before ((after.setCache (after.registry.cache.launch path.key)).answerMount
      ⟨path, epoch, after.registry.cache.nextFlight path.key⟩ outcome).2 path category := by
  obtain ⟨-, -, hpeek⟩ := Cache.finish_launch h.keeps.idle hmissing outcome
  obtain ⟨state, hstate, hdescriptor, hname⟩ := h.named
  have hfiled : ∀ schema, Cache.schemaOf? outcome = some schema → Proper schema ∧ (path ≠ Path.root →
      ∃ place, Hosted after.config.maxRefDepth after.registry path place ∧
        Explains answers after.registry path schema place) := by
    intro schema hschema
    obtain ⟨hproper, asked, found, hasked, hanswer, hfound⟩ := hanswered schema hschema
    refine ⟨hproper, fun _ => ⟨.block category, ?_, ?_⟩⟩
    · rw [h.config]
      exact hhosted.of_same fun base _ hbase host hhost => h.kept hbase hhost
    · exact ⟨state, asked, found, hstate, hdescriptor, hname.trans hasked, hanswer, hfound⟩
  let finished := (after.registry.cache.launch path.key).finish path
    (after.registry.cache.nextFlight path.key) outcome
  have hfinished : Mounted answers before (after.setCache finished) path category := by
    refine ⟨h.store, h.config, h.keeps.finished hmissing hfiled,
      fun {other schema} hother hschema => ?_,
      fun hother hne => ?_, state, hstate, hdescriptor, hname⟩
    · have hafter := h.kept hother hschema
      have hne : path ≠ other := by
        rintro rfl
        exact absurd (hmissing.symm.trans hafter) nofun
      exact (hpeek other hother).trans ((if_neg hne).trans hafter)
    · obtain ⟨heditor, hsame⟩ := h.apart hother hne
      exact ⟨heditor, (hpeek _ hother).trans ((if_neg (Ne.symm hne)).trans hsame)⟩
  exact hfinished.settle epoch outcome

/-! ## Mounts to the end -/

/-- What the mount of a block learns: the catalog's answer to its name, and without a name none. -/
def learned (answers : String → Except FetchError Catalog.BlockSchema) (name : Option String) :
    LoadOutcome := name.elim (.ok none) fun name => loadOutcome (answers name)

theorem answered_learned
    (hanswers : ∀ name found, answers name = .ok found → Proper found.schema)
    (name : Option String) : Answered answers name (learned answers name) := by
  cases name with
  | none => exact fun _ hschema => absurd hschema nofun
  | some name => exact answered_loadOutcome hanswers name

/-- **A mount of a block that lacks its schema comes to its end** with what it learns. -/
theorem mountNow_of_missing {source : Catalog.Source σ}
    (hfixed : ∀ name state, (source.schema name state).2 = some (answers name))
    (hidle : session.registry.cache.inFlight = [])
    (hmissing : session.registry.cache.peek? path = none) (category : Category) (state : σ) :
    ∃ mode later, mountNow source path (.block category) session state = (some mode,
      (((session.recordMount path (.block category) (session.askedName? path category)).setCache
        (session.registry.cache.launch path.key)).answerMount
          ⟨path, session.mounts + 1, session.registry.cache.nextFlight path.key⟩
          (learned answers (session.askedName? path category))).2, later) := by
  have hasked : (Descriptor.block category).blockName? (session.value? path)
      = session.askedName? path category := rfl
  have hrequest : (session.recordMount path (.block category)
      (session.askedName? path category)).registry.cache.request path = _ :=
    Cache.request_of_missing hidle hmissing
  unfold mountNow beginMount
  dsimp only
  rw [hasked, hrequest]
  cases session.askedName? path category with
  | none => exact ⟨_, _, rfl⟩
  | some name =>
    obtain ⟨later, hlater⟩ : ∃ later, source.schema name state = (later, some (answers name)) :=
      ⟨_, Prod.ext rfl (hfixed name state)⟩
    dsimp only [Descriptor.block]
    rw [hlater]
    exact ⟨_, _, rfl⟩

section

variable {source : Catalog.Source σ} {definition : Catalog.Definition}

/-- **A mount of a block that is ready comes to its end**, whatever the catalog answers. -/
theorem mountNow_spec (hfixed : source.Fixed answers definition)
    (hanswers : ∀ name found, answers name = .ok found → Proper found.schema)
    (h : Keeps answers session) (hready : Ready session path category) (state : σ) :
    ∃ mode next later,
      mountNow source path (.block category) session state = (some mode, next, later) ∧
      Mounted answers session next path category := by
  have hrecorded := mounted_recordMount h hready
  rcases Cache.request_of_idle h.policy h.idle path with ⟨schema, -, hrequest⟩ | ⟨hmissing, -⟩
  · have hasked : (Descriptor.block category).blockName? (session.value? path)
        = session.askedName? path category := rfl
    have hhit : (session.recordMount path (.block category)
        (session.askedName? path category)).registry.cache.request path = _ := hrequest
    unfold mountNow beginMount
    dsimp only
    rw [hasked, hhit]
    exact ⟨_, _, _, rfl, hrecorded.settle _ _⟩
  · obtain ⟨mode, later, hmount⟩ := mountNow_of_missing hfixed.schema h.idle hmissing category state
    exact ⟨mode, _, later, hmount,
      hrecorded.answered hready.hosted hmissing (answered_learned hanswers _) _⟩

/-- A module of a tree that is a block and may be mounted. -/
def MountableHead (session : Session) (head : ModuleHead) : Prop :=
  ∃ category given, head.role = .block category given ∧ Ready session head.path category

/-- A mount leaves the other blocks of a tree to be mounted. -/
theorem MountableHead.later {head : ModuleHead} (h : MountableHead before head)
    (hkeeps : Keeps answers before) (hmounted : Mounted answers before after path category)
    (hpath : Hosted before.config.maxRefDepth before.registry path (.block category)) :
    MountableHead after head := by
  obtain ⟨kind, given, hrole, hready⟩ := h
  exact ⟨kind, given, hrole, hready.later hkeeps hmounted hpath⟩

/-- **Mounts of blocks that are ready come to their ends**, one after the other. -/
theorem mountAll_spec (hfixed : source.Fixed answers definition)
    (hanswers : ∀ name found, answers name = .ok found → Proper found.schema)
    (heads : List ModuleHead) (session : Session) (h : Keeps answers session)
    (hheads : ∀ head ∈ heads, MountableHead session head) (state : σ) :
    ∃ next later, mountAll source heads session state = (true, next, later) ∧
      next.store = session.store ∧ next.config = session.config ∧ Keeps answers next := by
  induction heads generalizing session state with
  | nil => exact ⟨session, state, rfl, rfl, rfl, h⟩
  | cons head heads ih =>
    obtain ⟨category, given, hrole, hready⟩ := hheads head List.mem_cons_self
    obtain ⟨mode, mounted, between, hmount, hmounted⟩ := mountNow_spec hfixed hanswers h hready state
    have hrest : ∀ other ∈ heads, MountableHead mounted other := fun other hother =>
      (hheads other (List.mem_cons_of_mem _ hother)).later h hmounted hready.hosted
    obtain ⟨next, later, hall, hstore, hconfig, hkeeps⟩ := ih mounted hmounted.keeps hrest between
    refine ⟨next, later, ?_, hstore.trans hmounted.store, hconfig.trans hmounted.config, hkeeps⟩
    have hdescriptor : pendingDescriptor head = .block category := by
      rw [pendingDescriptor, hrole]
    rw [mountAll, hdescriptor, hmount]
    exact hall

end

/-! ## Rendering the whole document -/

/-- What the rendering of a session depends on. -/
def setting (session : Session) (answers : String → Except FetchError Catalog.BlockSchema) :
    Render.Setting := ⟨session.view, session.config.maxRenderDepth, answers⟩

/-- **The module of the whole document is at its place.** -/
theorem placed_root (h : Keeps answers session) :
    (session.setting answers).Placed session.registry (session.moduleOf Path.root) := by
  change Render.Setting.Placed _ _ ⟨none, Path.root, subjectOf _, false⟩
  cases hstate : session.editor? Path.root with
  | none => exact ⟨Schema.proper_freeForm, .inl rfl⟩
  | some state =>
    rcases h.top state hstate with hnone | ⟨schema, hinline, hproper⟩
    · rw [Option.bind_some, hnone]
      exact ⟨Schema.proper_freeForm, .inl rfl⟩
    · rw [Option.bind_some, hinline]
      exact ⟨hproper, .inl rfl⟩

/-- **The rendering of the whole document is sound.** -/
theorem sound_render (h : Keeps answers session) (hdocument : session.store.document.Regular) :
    Render.Sound (session.setting answers) 0 (fun path => Path.root <+: path) (fun widget => [widget])
      (Render.module session.view (session.fieldAt 0) (session.moduleOf Path.root))
      session.registry :=
  Render.sound_module (session.moduleOf Path.root) (Render.sound_field hdocument 0) hdocument
    Path.rooted_root h (placed_root h)

theorem keeps_render_root (h : Keeps answers session) (hdocument : session.store.document.Regular) :
    Keeps answers (session.render Path.root).2 := (sound_render h hdocument).keeps

/-- **What lacks its schema in a tree may be mounted**, if the rendering is sound. -/
theorem mountable_of_sound {region : Path → Prop}
    (hsound : Render.Sound (session.setting answers) 0 region (fun widget => [widget])
      (Render.module session.view (session.fieldAt 0) (session.moduleOf path)) session.registry)
    {head : ModuleHead} (hhead : head ∈ toMount (session.render path).2 (session.render path).1) :
    MountableHead (session.render path).2 head := by
  have hgood := hsound.good _ (List.mem_singleton_self _)
  obtain ⟨node, hnode, hpending⟩ := List.mem_filterMap.mp (List.mem_filter.mp hhead).1
  rw [← Widget.map_levels 0] at hnode
  obtain ⟨entry, hentry, rfl⟩ := List.mem_map.mp hnode
  have hentryGood := hgood entry hentry
  obtain ⟨depth, node⟩ := entry
  cases node with
  | pending found loading =>
    obtain rfl := Option.some.inj hpending
    obtain ⟨-, hrooted, hmissing, category, given, hrole, hhosted⟩ := hentryGood
    refine ⟨category, given, hrole, hrooted, hhosted, fun schema hschema => ?_⟩
    exact absurd (hmissing.symm.trans hschema) nofun
  | _ => exact absurd hpending nofun

/-! ## Hydration -/

section

variable {source : Catalog.Source σ} {definition : Catalog.Definition}

/-- **Hydration ends with a tree**, rendered from a session in which every schema belongs where it
is. -/
theorem hydrateRounds_spec (hfixed : source.Fixed answers definition)
    (hanswers : ∀ name found, answers name = .ok found → Proper found.schema)
    (rounds : Nat) (session : Session) (h : Keeps answers session)
    (hdocument : session.store.document.Regular) (state : σ) :
    ∃ last later, hydrateRounds source Path.root rounds session state
        = (some (last.render Path.root).1, (last.render Path.root).2, later) ∧
      last.store = session.store ∧ last.config = session.config ∧ Keeps answers last := by
  induction rounds generalizing session state with
  | zero => exact ⟨session, state, rfl, rfl, rfl, h⟩
  | succ rounds ih =>
    cases hheads : toMount (session.render Path.root).2 (session.render Path.root).1 with
    | nil =>
      refine ⟨session, state, ?_, rfl, rfl, h⟩
      unfold hydrateRounds
      dsimp only
      rw [hheads]
    | cons head heads =>
      have hready : ∀ other ∈ head :: heads, MountableHead (session.render Path.root).2 other :=
        fun other hother => mountable_of_sound (sound_render h hdocument) (hheads ▸ hother)
      obtain ⟨next, between, hall, hstore, hconfig, hkeeps⟩ := mountAll_spec hfixed hanswers
        (head :: heads) _ (keeps_render_root h hdocument) hready state
      have hnext : next.store.document.Regular := by
        rw [hstore]
        exact hdocument
      obtain ⟨last, later, hrounds, hlastStore, hlastConfig, hlast⟩ := ih next hkeeps hnext between
      refine ⟨last, later, ?_, hlastStore.trans hstore, hlastConfig.trans hconfig, hlast⟩
      unfold hydrateRounds
      dsimp only
      rw [hheads]
      dsimp only
      rw [hall]
      exact hrounds

theorem hydrate_spec (hfixed : source.Fixed answers definition)
    (hanswers : ∀ name found, answers name = .ok found → Proper found.schema)
    (session : Session) (h : Keeps answers session) (hdocument : session.store.document.Regular)
    (state : σ) :
    ∃ last later, hydrate source Path.root session state
        = (some (last.render Path.root).1, (last.render Path.root).2, later) ∧
      last.store = session.store ∧ last.config = session.config ∧ Keeps answers last :=
  hydrateRounds_spec hfixed hanswers _ session h hdocument state

end

end Session

end SchemaForms
