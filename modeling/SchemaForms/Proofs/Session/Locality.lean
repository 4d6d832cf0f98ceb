import SchemaForms.Proofs.Session.Hydrating

/-!
# Proofs/Session/Locality — a hydration sees only what is filed in its region

Two sessions are `Twin` in a region if they have the same document and the same loads and cannot be
told apart by what is filed in the region.  Rendering and mounting an editor of the region come to
the same in both and leave them twins, so that a hydration shows the same tree (`twin_hydrate`).
-/

namespace SchemaForms

/-! ## The cache -/

namespace Cache

variable {a b : Cache} {path other : Path}

/-- **What a request leads to** is decided by the schema of its path and by the loads. -/
theorem request_eq (hbare : a.bare = b.bare) (hpeek : a.peek? path = b.peek? path) :
    (a.request path).1 = (b.request path).1 ∧
      (a.request path).2.bare = (b.request path).2.bare := by
  have hpolicy : a.policy = b.policy := congrArg (·.policy) hbare
  have hinFlight : a.inFlight = b.inFlight := congrArg (·.inFlight) hbare
  have hnext : a.nextFlight path.key = b.nextFlight path.key :=
    congrArg (·.nextFlight path.key) hbare
  have hlaunch : (a.launch path.key).bare = (b.launch path.key).bare :=
    congrArg (·.launch path.key) hbare
  unfold peek? at hpeek
  unfold request
  dsimp only
  rw [hpolicy, hinFlight, hpeek, hnext]
  split
  · exact ⟨rfl, hbare⟩
  · exact ⟨rfl, hbare⟩
  · exact ⟨rfl, hlaunch⟩

/-- A request files no schema. -/
theorem peek?_request (cache : Cache) (path other : Path) :
    (cache.request path).2.peek? other = cache.peek? other := by
  rcases request_cases cache path with ⟨_, -, -, hr⟩ | ⟨-, _, -, hr⟩ | ⟨-, -, hr⟩
  · rw [hr]
  · rw [hr]
  · rw [hr]
    rfl

theorem bare_release (cache : Cache) (path : Path) (generation : Nat) :
    (cache.release path generation).bare = cache.bare.release path generation := by
  change _ = if cache.isCurrent path.key generation then _ else _
  unfold release
  split <;> rfl

theorem bare_commit (cache : Cache) (path : Path) (generation : Nat) (outcome : LoadOutcome) :
    (cache.commit path generation outcome).bare = cache.bare.release path generation := by
  change _ = if cache.isCurrent path.key generation then _ else _
  unfold commit
  split <;> rfl

theorem bare_finish (cache : Cache) (path : Path) (flight : Flight) (outcome : LoadOutcome) :
    (cache.finish path flight outcome).bare
      = (cache.bare.release path flight.generation).tell flight.ticket (.finished outcome) :=
  congrArg (·.tell flight.ticket (.finished outcome)) (bare_commit cache path _ outcome)

theorem bare_drop (cache : Cache) (path : Path) (flight : Flight) :
    (cache.drop path flight).bare = cache.bare.drop path flight :=
  congrArg (·.tell flight.ticket .dropped) (bare_release cache path flight.generation)

/-- The end of a load files the same schema in both. -/
theorem peek?_finish_eq (hbare : a.bare = b.bare) (hpeek : a.peek? other = b.peek? other)
    (path : Path) (flight : Flight) (outcome : LoadOutcome) :
    (a.finish path flight outcome).peek? other = (b.finish path flight outcome).peek? other := by
  have hcurrent : a.isCurrent path.key flight.generation = b.isCurrent path.key flight.generation :=
    congrArg (·.isCurrent path.key flight.generation) hbare
  rw [peek?_finish, peek?_finish, hcurrent, hpeek]

end Cache

/-! ## Registries -/

namespace Render

/-- **Two registries that cannot be told apart in a region.** -/
structure Alike (region : Path → Prop) (a b : Registry) : Prop where
  bare : a.cache.bare = b.cache.bare
  editor : ∀ {path : Path}, region path → a.editor? path = b.editor? path
  schema : ∀ {path : Path}, region path → a.cache.peek? path = b.cache.peek? path

variable {region : Path → Prop} {a b : Registry} {path : Path}

theorem Alike.refl (region : Path → Prop) (a : Registry) : Alike region a a :=
  ⟨rfl, fun _ => rfl, fun _ => rfl⟩

/-- **Both drop the same, and file the same.** -/
theorem parametric_alike (region : Path → Prop) : Parametric region (Alike region) where
  same {a b path} h hpath := by
    have hloading := congrArg (·.isLoading path) h.bare
    exact ⟨h.editor hpath, h.schema hpath, hloading⟩
  drop {a b path} h _ := by
    have hbare := congrArg (fun cache => (cache.evict path).bare) h.bare
    refine ⟨hbare, fun hother => ?_, fun hother => ?_⟩
    · rw [Registry.dropUnder, Registry.editor?_dropWhere, Registry.dropUnder,
        Registry.editor?_dropWhere, h.editor hother]
    · rw [Registry.dropUnder, Registry.peek?_dropWhere, Registry.dropUnder,
        Registry.peek?_dropWhere, h.schema hother]
  seed {a b path} schema h _ := by
    refine ⟨?_, fun hother => h.editor hother, fun hother => ?_⟩
    · change (a.cache.seed path schema).bare = (b.cache.seed path schema).bare
      rw [Cache.bare_seed, Cache.bare_seed, h.bare]
    · change (a.cache.seed path schema).peek? _ = (b.cache.seed path schema).peek? _
      rw [peek?_seed_key, peek?_seed_key, h.schema hother]

theorem Alike.setEditor (h : Alike region a b) (path : Path) (state : EditorState) :
    Alike region (a.setEditor path state) (b.setEditor path state) where
  bare := h.bare
  editor hpath := by rw [Registry.editor?_setEditor, Registry.editor?_setEditor, h.editor hpath]
  schema := h.schema

/-- Two caches in place of others. -/
theorem Alike.withCaches (h : Alike region a b) {x y : Cache} (hbare : x.bare = y.bare)
    (hpeek : ∀ path, region path → x.peek? path = y.peek? path) :
    Alike region { a with cache := x } { b with cache := y } where
  bare := hbare
  editor := h.editor
  schema hpath := hpeek _ hpath

end Render

namespace Session

open Render (Alike)

variable {region : Path → Prop} {s t : Session} {path : Path}

/-- What a rendering reads is the document and how deep references go. -/
theorem view_eq (hconfig : s.config = t.config) (hstore : s.store = t.store) :
    s.view = t.view := by
  rw [view, view, hconfig, hstore]

/-- **What is run to render an editor** depends on the registry only by the state of the editor. -/
theorem render_eq (hconfig : s.config = t.config) (hstore : s.store = t.store)
    (heditor : s.editor? path = t.editor? path) :
    s.render path
      = s.runRenderer (Render.module t.view (t.fieldAt 0) (t.moduleOf path)) := by
  have hmodule : s.moduleOf path = t.moduleOf path := by rw [moduleOf, moduleOf, heditor]
  rw [render, fieldAt, view_eq hconfig hstore, hmodule, hconfig]
  rfl

/-- **Two sessions that cannot be told apart in a region.** -/
structure Twin (region : Path → Prop) (s t : Session) : Prop where
  config : s.config = t.config
  store : s.store = t.store
  mounts : s.mounts = t.mounts
  alike : Alike region s.registry t.registry

theorem Twin.mono {part : Path → Prop} (h : Twin region s t)
    (hle : ∀ path, part path → region path) : Twin part s t :=
  ⟨h.config, h.store, h.mounts, h.alike.bare, fun hpath => h.alike.editor (hle _ hpath),
    fun hpath => h.alike.schema (hle _ hpath)⟩

theorem Twin.editor? (h : Twin region s t) (hpath : region path) : s.editor? path = t.editor? path :=
  h.alike.editor hpath

theorem Twin.value? (h : Twin region s t) (path : Path) : s.value? path = t.value? path :=
  congrArg (·.get? path) h.store

theorem Twin.setEditor (h : Twin region s t) (path : Path) (state : EditorState) :
    Twin region (s.setEditor path state) (t.setEditor path state) :=
  ⟨h.config, h.store, h.mounts, h.alike.setEditor path state⟩

theorem Twin.setCache (h : Twin region s t) {x y : Cache} (hbare : x.bare = y.bare)
    (hpeek : ∀ path, region path → x.peek? path = y.peek? path) :
    Twin region (s.setCache x) (t.setCache y) :=
  ⟨h.config, h.store, h.mounts, h.alike.withCaches hbare hpeek⟩

/-- Two results that are the same, and leave sessions twins. -/
structure Agrees {α : Type} (region : Path → Prop) (x y : α × Session) : Prop where
  same : x.1 = y.1
  twin : Twin region x.2 y.2

theorem Agrees.exists {α : Type} {x y : α × Session} (h : Agrees region x y) :
    ∃ a s t, x = (a, s) ∧ y = (a, t) ∧ Twin region s t :=
  ⟨x.1, x.2, y.2, rfl, Prod.ext h.same.symm rfl, h.twin⟩

/-! ## Mounts -/

theorem twin_settle (h : Twin region s t) (hpath : region path) (epoch : Nat)
    (outcome : LoadOutcome) :
    Agrees region (s.settle path epoch outcome) (t.settle path epoch outcome) := by
  unfold settle
  rw [h.editor? hpath, h.value? path]
  split
  · exact ⟨rfl, h⟩
  · exact ⟨rfl, h.setEditor path _⟩

theorem twin_answerMount (h : Twin region s t) {mount : Mount} (hpath : region mount.path)
    (outcome : LoadOutcome) :
    Agrees region (s.answerMount mount outcome) (t.answerMount mount outcome) := by
  refine twin_settle (h.setCache ?_ fun path hpath => ?_) hpath mount.epoch outcome
  · rw [Cache.bare_finish, Cache.bare_finish, h.alike.bare]
  · exact Cache.peek?_finish_eq h.alike.bare (h.alike.schema hpath) _ _ _

theorem twin_dropMount (h : Twin region s t) (mount : Mount) :
    Twin region (s.dropMount mount) (t.dropMount mount) := by
  refine h.setCache ?_ fun path hpath => ?_
  · rw [Cache.bare_drop, Cache.bare_drop, h.alike.bare]
  · rw [Cache.peek?_drop, Cache.peek?_drop, h.alike.schema hpath]

theorem twin_recordMount (h : Twin region s t) (hpath : region path) (descriptor : Descriptor)
    (name : Option String) :
    Twin region (s.recordMount path descriptor name) (t.recordMount path descriptor name) := by
  unfold recordMount editorAt
  rw [h.editor? hpath, h.mounts]
  exact ⟨h.config, h.store, rfl, h.alike.setEditor path _⟩

/-- **The beginning of a mount comes to the same.** -/
theorem twin_beginMount (h : Twin region s t) (hpath : region path) (descriptor : Descriptor) :
    Agrees region (s.beginMount path descriptor) (t.beginMount path descriptor) := by
  unfold beginMount
  dsimp only
  rw [h.value? path]
  have hrecorded := twin_recordMount h hpath descriptor (descriptor.blockName? (t.value? path))
  obtain ⟨x, hx⟩ : ∃ x, x = s.recordMount path descriptor (descriptor.blockName? (t.value? path)) :=
    ⟨_, rfl⟩
  obtain ⟨y, hy⟩ : ∃ y, y = t.recordMount path descriptor (descriptor.blockName? (t.value? path)) :=
    ⟨_, rfl⟩
  rw [← hx, ← hy] at hrecorded ⊢
  obtain ⟨hplan, hbare⟩ := Cache.request_eq hrecorded.alike.bare (hrecorded.alike.schema hpath)
  have hasked : Twin region (x.setCache (x.registry.cache.request path).2)
      (y.setCache (y.registry.cache.request path).2) := by
    refine hrecorded.setCache hbare fun other hother => ?_
    rw [Cache.peek?_request, Cache.peek?_request, hrecorded.alike.schema hother]
  rw [hplan, hasked.mounts]
  cases (y.registry.cache.request path).1 with
  | hit schema =>
    have hsettled := twin_settle hasked hpath y.mounts (.ok (some schema))
    exact ⟨congrArg MountStep.done hsettled.same, hsettled.twin⟩
  | wait flight => exact ⟨rfl, hasked⟩
  | load flight =>
    let mount : Mount := ⟨path, y.mounts, flight⟩
    have hpath : region mount.path := hpath
    have hanswered := twin_answerMount hasked hpath
    dsimp only
    split
    · exact ⟨congrArg MountStep.done (hanswered _).same, (hanswered _).twin⟩
    · exact ⟨rfl, hasked⟩
    · exact ⟨congrArg MountStep.done (hanswered _).same, (hanswered _).twin⟩

variable {σ : Type}

/-- Two results with what became of the catalog, that are the same and leave sessions twins. -/
structure Concurs {α : Type} (region : Path → Prop) (x y : α × Session × σ) : Prop where
  same : x.1 = y.1
  twin : Twin region x.2.1 y.2.1
  state : x.2.2 = y.2.2

theorem Concurs.exists {α : Type} {x y : α × Session × σ} (h : Concurs region x y) :
    ∃ a s t state, x = (a, s, state) ∧ y = (a, t, state) ∧ Twin region s t :=
  ⟨x.1, x.2.1, y.2.1, x.2.2, rfl, Prod.ext h.same.symm (Prod.ext rfl h.state.symm), h.twin⟩

/-- **A mount comes to the same end.** -/
theorem twin_mountNow (source : Catalog.Source σ) (h : Twin region s t) (hpath : region path)
    (descriptor : Descriptor) (state : σ) :
    Concurs region (mountNow source path descriptor s state)
      (mountNow source path descriptor t state) := by
  obtain ⟨step, x, y, hx, hy, hnext⟩ := (twin_beginMount h hpath descriptor).exists
  have hplace := beginMount_cases t path descriptor
  unfold mountNow
  rw [hx, hy]
  rw [hy] at hplace
  cases step with
  | done mode => exact ⟨rfl, hnext, rfl⟩
  | waits mount => exact ⟨rfl, hnext, rfl⟩
  | asks mount name =>
    have hmount : region mount.path := by
      rcases hplace with ⟨mode, hmode⟩ | ⟨flight, hflight⟩ | ⟨flight, name, hflight, -⟩
      · exact absurd hmode nofun
      · exact absurd hflight nofun
      · obtain ⟨rfl, -⟩ := MountStep.asks.inj hflight
        exact hpath
    dsimp only
    obtain ⟨later, answer⟩ := source.schema name state
    cases answer with
    | none => exact ⟨rfl, twin_dropMount hnext mount, rfl⟩
    | some answer =>
      have hanswered := twin_answerMount hnext hmount (loadOutcome answer)
      exact ⟨congrArg some hanswered.same, hanswered.twin, rfl⟩

/-- **Mounts one after the other come to the same end.** -/
theorem twin_mountAll (source : Catalog.Source σ) (heads : List ModuleHead)
    (hheads : ∀ head ∈ heads, region head.path) (h : Twin region s t) (state : σ) :
    Concurs region (mountAll source heads s state) (mountAll source heads t state) := by
  induction heads generalizing s t state with
  | nil => exact ⟨rfl, h, rfl⟩
  | cons head heads ih =>
    obtain ⟨hhead, hrest⟩ := List.forall_mem_cons.mp hheads
    obtain ⟨mode, x, y, later, hx, hy, hnext⟩ :=
      (twin_mountNow source h hhead (pendingDescriptor head) state).exists
    unfold mountAll
    rw [hx, hy]
    cases mode with
    | none => exact ⟨rfl, hnext, rfl⟩
    | some mode => exact ih hrest hnext later

/-! ## Hydration -/

/-- **An editor of the region is rendered the same**, and what lacks its schema there is in the
region. -/
theorem twin_render (hdown : Render.Downward region) (h : Twin region s t) (hpath : region path) :
    Agrees region (s.render path) (t.render path) ∧ Render.PendsIn region (t.render path).1 := by
  obtain ⟨hsame, halike, hpends⟩ :=
    respects_render (Render.parametric_alike region) hdown t hpath _ _ h.alike
  rw [render_eq h.config h.store (h.editor? hpath)]
  exact ⟨⟨hsame, h.config, h.store, h.mounts, halike⟩, hsame ▸ hpends⟩

/-- What is to be mounted of a tree is decided by the loads. -/
theorem toMount_eq (hbare : s.registry.cache.bare = t.registry.cache.bare) (widget : Widget) :
    s.toMount widget = t.toMount widget := by
  refine List.filter_congr fun head _ => ?_
  have hloading := congrArg (·.isLoading head.path) hbare
  exact congrArg not hloading

/-- What is to be mounted of a tree is in the region. -/
theorem mem_region_of_mem_toMount {widget : Widget} (hpends : Render.PendsIn region widget)
    {head : ModuleHead} (hhead : head ∈ t.toMount widget) : region head.path := by
  obtain ⟨node, hnode, hpending⟩ := List.mem_filterMap.mp (List.mem_filter.mp hhead).1
  exact hpends node hnode head hpending

/-- **Hydration shows the same**, for any number of rounds. -/
theorem twin_hydrateRounds (source : Catalog.Source σ) (hdown : Render.Downward region)
    (hpath : region path) (rounds : Nat) (h : Twin region s t) (state : σ) :
    Concurs region (hydrateRounds source path rounds s state)
      (hydrateRounds source path rounds t state) := by
  induction rounds generalizing s t state with
  | zero =>
    obtain ⟨hsame, htwin⟩ := (twin_render hdown h hpath).1
    exact ⟨congrArg some hsame, htwin, rfl⟩
  | succ rounds ih =>
    obtain ⟨hrendered, hpends⟩ := twin_render hdown h hpath
    obtain ⟨widget, x, y, hx, hy, hnext⟩ := hrendered.exists
    rw [hy] at hpends
    unfold hydrateRounds
    rw [hx, hy]
    dsimp only
    rw [toMount_eq hnext.alike.bare]
    cases hheads : y.toMount widget with
    | nil => exact ⟨rfl, hnext, rfl⟩
    | cons head heads =>
      have hregion : ∀ other ∈ head :: heads, region other.path := fun other hother =>
        mem_region_of_mem_toMount hpends (hheads ▸ hother)
      obtain ⟨isDone, x, y, later, hx, hy, hnext⟩ :=
        (twin_mountAll source (head :: heads) hregion hnext state).exists
      dsimp only
      rw [hx, hy]
      cases isDone with
      | true => exact ih hnext later
      | false => exact ⟨rfl, hnext, rfl⟩

/-- **Hydration shows the same.** -/
theorem twin_hydrate (source : Catalog.Source σ) (hdown : Render.Downward region)
    (hpath : region path) (h : Twin region s t) (state : σ) :
    Concurs region (hydrate source path s state) (hydrate source path t state) := by
  unfold hydrate
  rw [h.config]
  exact twin_hydrateRounds source hdown hpath _ h state

end Session

end SchemaForms
