import SchemaForms.Proofs.Render.Fields

/-!
# Proofs/Render/Growth — schemas of objects may be filed sooner or later

Where every schema belongs where it is, the schema of an object is the one that the module above
calls for, and whoever renders the object files it.  So nobody can tell whether it is filed yet.  A
rendering `Grows` if it shows the same on a registry that lacks some of these schemas, and if it lets
a registry grow by such schemas only, as long as no block that it shows was stale.  Every rendering of
a place grows (`grows_field`, `grows_module`); the induction is on the levels that are left.
-/

namespace SchemaForms

/-- The head of a module. -/
def Widget.head? : Widget → Option ModuleHead
  | .form head _ _ | .source head _ _ _ | .pending head _ => some head
  | _ => none

namespace Render

open Schema (Node Proper)
open Session (Consistent Hosted)
open Value (Regular)

/-! ## Growth -/

/-- **A registry that has grown by schemas of objects.** -/
structure Grown (maxDepth : Nat) (before after : Registry) : Prop where
  bare : after.cache.bare = before.cache.bare
  editor : ∀ {path : Path}, Path.Rooted path → after.editor? path = before.editor? path
  schema : ∀ {path : Path}, Path.Rooted path →
    after.cache.peek? path = before.cache.peek? path ∨
      before.cache.peek? path = none ∧ ∃ schema, after.cache.peek? path = some schema ∧
        Hosted maxDepth after path (.inline schema)

variable {maxDepth : Nat} {before after later : Registry} {path : Path} {place : Place}

namespace Grown

theorem refl (maxDepth : Nat) (registry : Registry) : Grown maxDepth registry registry :=
  ⟨rfl, fun _ => rfl, fun _ => .inl rfl⟩

/-- No schema is lost. -/
theorem kept (h : Grown maxDepth before after) (hpath : Path.Rooted path) {schema : Value}
    (hschema : before.cache.peek? path = some schema) : after.cache.peek? path = some schema := by
  rcases h.schema hpath with hsame | ⟨hnone, -⟩
  · exact hsame.trans hschema
  · exact absurd (hnone.symm.trans hschema) nofun

theorem hosted (h : Grown maxDepth before after) (hhosted : Hosted maxDepth before path place) :
    Hosted maxDepth after path place :=
  hhosted.of_same fun _ _ hbase _ hhost => h.kept hbase hhost

theorem trans (hbefore : Grown maxDepth before after) (hafter : Grown maxDepth after later) :
    Grown maxDepth before later where
  bare := hafter.bare.trans hbefore.bare
  editor hpath := (hafter.editor hpath).trans (hbefore.editor hpath)
  schema hpath := by
    rcases hafter.schema hpath with hsame | ⟨hnone, hfiled⟩
    · rcases hbefore.schema hpath with hold | ⟨hnone, schema, hschema, hhosted⟩
      · exact .inl (hsame.trans hold)
      · exact .inr ⟨hnone, schema, hsame.trans hschema, hafter.hosted hhosted⟩
    · refine .inr ⟨?_, hfiled⟩
      refine Option.eq_none_iff_forall_ne_some.mpr fun schema hschema => ?_
      exact absurd (hnone.symm.trans (hbefore.kept hpath hschema)) nofun

/-- **The schema of a block is the same.** -/
theorem block {answers : String → Except FetchError Catalog.BlockSchema} {category : Category}
    (h : Grown maxDepth before after) (hafter : Consistent maxDepth answers after)
    (hpath : Path.Rooted path) (hhosted : Hosted maxDepth after path (.block category)) :
    after.cache.peek? path = before.cache.peek? path := by
  rcases h.schema hpath with hsame | ⟨-, schema, -, hobject⟩
  · exact hsame
  · exact absurd (hafter.hosted_unique hobject hhosted) nofun

/-- **Both may drop the same.** -/
theorem dropUnder (h : Grown maxDepth before after) (path : Path) :
    Grown maxDepth (before.dropUnder path) (after.dropUnder path) where
  bare := by
    have hbare := congrArg (fun cache => (cache.evict path).bare) h.bare
    exact hbare
  editor hother := by
    rw [Registry.dropUnder, Registry.editor?_dropWhere, Registry.dropUnder,
      Registry.editor?_dropWhere, h.editor hother]
  schema {other} hother := by
    rw [Registry.dropUnder, peek?_dropWhere _ _ hother, Registry.dropUnder,
      peek?_dropWhere _ _ hother]
    split
    · exact .inl rfl
    · rename_i hspared
      rcases h.schema hother with hsame | ⟨hnone, schema, hschema, hhosted⟩
      · exact .inl hsame
      refine .inr ⟨hnone, schema, hschema, hhosted.of_same fun base hle hbase host hhost => ?_⟩
      have hbaseSpared : ¬ Path.startsWith base path = true := fun hdoomed =>
        hspared (Path.startsWith_iff.mpr ((Path.startsWith_iff.mp hdoomed).trans hle))
      rw [peek?_dropWhere _ _ hbase, if_neg hbaseSpared, hhost]

end Grown

/-- **A schema that belongs where it is filed lets a registry grow.** -/
theorem grown_seed {registry : Registry} {schema : Value}
    (hplace : registry.cache.peek? path = none → Hosted maxDepth registry path (.inline schema)) :
    Grown maxDepth registry { registry with cache := registry.cache.seed path schema } where
  bare := Cache.bare_seed _ _ _
  editor _ := rfl
  schema {other} hother := by
    rw [peek?_seed _ hother]
    split
    · rename_i hsame
      subst hsame
      cases hfound : registry.cache.peek? path with
      | some found => exact .inl rfl
      | none => exact .inr ⟨rfl, schema, rfl, hosted_seed (hplace hfound) _ _⟩
    · exact .inl rfl

/-- **Both may file the same**, if it is found at its path afterwards. -/
theorem Grown.seed (h : Grown maxDepth before after) {schema : Value}
    (hfound : (before.cache.seed path schema).peek? path
      = (after.cache.seed path schema).peek? path) :
    Grown maxDepth { before with cache := before.cache.seed path schema }
      { after with cache := after.cache.seed path schema } where
  bare := by
    change (after.cache.seed path schema).bare = (before.cache.seed path schema).bare
    rw [Cache.bare_seed, Cache.bare_seed, h.bare]
  editor := h.editor
  schema {other} hother := by
    by_cases hsame : path = other
    · subst hsame
      exact .inl hfound.symm
    · rw [peek?_seed _ hother, if_neg hsame, peek?_seed _ hother, if_neg hsame]
      rcases h.schema hother with hsame | ⟨hnone, found, hfiled, hhosted⟩
      · exact .inl hsame
      · exact .inr ⟨hnone, found, hfiled, hosted_seed hhosted path schema⟩

/-! ## Renderings that grow -/

variable {setting : Setting} {depth : Nat} {registry dropped filed : Registry}
  {request : ModuleRequest} {state : Option EditorState} {schema : Option Value}

/-- Whether a widget is the module of a block whose editor was mounted for another block. -/
def showsStale (view : View) (registry : Registry) (node : Widget) : Bool :=
  node.head?.any fun head =>
    match head.role with
    | .block category _ =>
      (registry.editor? head.path).any fun state =>
        state.isStale (liveName? view head.path category)
    | _ => false

/-- **No block that a widget shows was stale.** -/
def Fresh (view : View) (registry : Registry) : Widget → Prop :=
  Widget.Every fun node => showsStale view registry node = false

instance (view : View) (registry : Registry) (widget : Widget) :
    Decidable (Fresh view registry widget) :=
  inferInstanceAs (Decidable (∀ node ∈ widget.nodes, showsStale view registry node = false))

variable {α β : Type} {shown : α → List Widget} {renderer : Renderer α}

/-- **A rendering that cannot tell whether schemas of objects are filed yet**, and files nothing
else. -/
structure Grows (setting : Setting) (shown : α → List Widget) (renderer : Renderer α)
    (registry : Registry) : Prop where
  follows : ∀ {before : Registry}, Grown setting.view.maxRefDepth before registry →
    (renderer.run before).1 = (renderer.run registry).1 ∧
      Grown setting.view.maxRefDepth (renderer.run before).2 (renderer.run registry).2
  grown : ∀ {before : Registry}, Grown setting.view.maxRefDepth before registry →
    (∀ widget ∈ shown (renderer.run registry).1, Fresh setting.view before widget) →
      Grown setting.view.maxRefDepth before (renderer.run registry).2

theorem grows_pure (a : α) : Grows setting shown (pure a : Renderer α) registry :=
  ⟨fun h => ⟨rfl, h⟩, fun h _ => h⟩

/-- What is put around the widgets of a rendering. -/
theorem Grows.map (h : Grows setting shown renderer registry) (f : α → β)
    {shown' : β → List Widget}
    (hshown : ∀ a before, (∀ widget ∈ shown' (f a), Fresh setting.view before widget) →
      ∀ widget ∈ shown a, Fresh setting.view before widget) :
    Grows setting shown' (renderer >>= fun a => pure (f a)) registry where
  follows hbefore :=
    have ⟨hsame, hgrown⟩ := h.follows hbefore
    ⟨congrArg f hsame, hgrown⟩
  grown hbefore hfresh := h.grown hbefore (hshown _ _ hfresh)

/-- A registry in which a module is shown by its schema, and every schema belongs where it is. -/
structure Setting.Hosts (setting : Setting) (base : Path) (host : Value) (registry : Registry) :
    Prop where
  keeps : setting.Keeps registry
  filed : registry.cache.peek? base = some host

variable {base steps : Path} {host : Value} {region : Path → Prop}

theorem Sound.hosts (h : Sound setting depth region shown renderer registry)
    (hbase : Path.Rooted base) (hout : ¬ region base) (hhosts : setting.Hosts base host registry) :
    setting.Hosts base host (renderer.run registry).2 :=
  ⟨h.keeps, (h.frame base hbase hout).schema.trans hhosts.filed⟩

/-- **Parts that are rendered one after the other grow together.** -/
theorem grows_mapM {render : α → Renderer β} {shown : β → List Widget} (items : List α)
    (hrender : ∀ a ∈ items, ∀ registry, setting.Hosts base host registry →
      setting.Hosts base host ((render a).run registry).2 ∧
        Grows setting shown (render a) registry)
    (registry : Registry) (hhosts : setting.Hosts base host registry) :
    Grows setting (fun bs => bs.flatMap shown) (items.mapM render) registry := by
  induction items generalizing registry with
  | nil => exact grows_pure _
  | cons a items ih =>
    obtain ⟨hbetween, hfirst⟩ := hrender a List.mem_cons_self registry hhosts
    have hrest := ih (fun b hb => hrender b (List.mem_cons_of_mem _ hb)) _ hbetween
    rw [List.mapM_cons]
    refine ⟨fun {before} hbefore => ?_, fun {before} hbefore hfresh => ?_⟩
    · obtain ⟨hsame, hnext⟩ := hfirst.follows hbefore
      obtain ⟨hsameRest, hlast⟩ := hrest.follows hnext
      refine ⟨?_, hlast⟩
      exact List.cons_eq_cons.mpr ⟨hsame, hsameRest⟩
    · have hboth : ∀ widget ∈ shown ((render a).run registry).1 ++
          ((items.mapM render).run ((render a).run registry).2).1.flatMap shown,
          Fresh setting.view before widget := hfresh
      obtain ⟨hfreshFirst, hfreshRest⟩ := List.forall_mem_append.mp hboth
      exact hrest.grown (hfirst.grown hbefore hfreshFirst) hfreshRest

/-! ## Modules -/

/-- **The editor of a module is found as it was before.** -/
theorem Grown.currentEditor (h : Grown setting.view.maxRefDepth before registry)
    (hpath : Path.Rooted request.path)
    (hrun : (currentEditor setting.view request).run registry = (state, dropped)) :
    ∃ earlier, (Render.currentEditor setting.view request).run before = (state, earlier) ∧
      Grown setting.view.maxRefDepth earlier dropped := by
  rw [run_currentEditor, h.editor hpath] at hrun
  rw [run_currentEditor]
  split at hrun
  · split at hrun
    · rename_i hstale
      obtain ⟨rfl, rfl⟩ := Prod.mk.inj hrun
      exact ⟨_, if_pos hstale, h.dropUnder _⟩
    · rename_i hfresh
      obtain ⟨rfl, rfl⟩ := Prod.mk.inj hrun
      exact ⟨_, if_neg hfresh, h⟩
  · obtain ⟨rfl, rfl⟩ := Prod.mk.inj hrun
    exact ⟨_, rfl, h⟩

/-- **The schema of a module is found as it would have been before.** -/
theorem Grown.schemaFor (h : Grown setting.view.maxRefDepth before dropped)
    (hpath : Path.Rooted request.path) (hkeeps : setting.Keeps dropped)
    (hplaced : setting.Placed dropped request)
    (hrun : (schemaFor request).run dropped = (schema, filed)) :
    ∃ earlier, (Render.schemaFor request).run before = (schema, earlier) ∧
      Grown setting.view.maxRefDepth earlier filed := by
  obtain ⟨title, path, subject, removable⟩ := request
  cases subject with
  | object inner isItem =>
    have hplace : path = Path.root ∨
        Hosted setting.view.maxRefDepth dropped path (.inline inner) := hplaced.2
    obtain ⟨rfl, rfl⟩ := Prod.mk.inj hrun
    have hfound : (before.cache.seed path inner).peek? path
        = (dropped.cache.seed path inner).peek? path := by
      rw [peek?_seed _ hpath, peek?_seed _ hpath, if_pos rfl, if_pos rfl]
      rcases h.schema hpath with hsame | ⟨hnone, found, hfound, hhosted⟩
      · rw [hsame]
      · obtain rfl := Place.inline.inj
          (hkeeps.hosted_unique hhosted (hplace.resolve_left hhosted.ne_root))
        rw [hnone, hfound]
        rfl
    exact ⟨_, Prod.ext hfound rfl, h.seed hfound⟩
  | block category given =>
    obtain ⟨rfl, rfl⟩ := Prod.mk.inj hrun
    exact ⟨before, Prod.ext (h.block hkeeps hpath hplaced).symm rfl, h⟩

/-- What is filed for a place lets a registry grow. -/
theorem grown_schemaFor (hplaced : setting.Placed registry request)
    (htop : request.path = Path.root → registry.cache.peek? Path.root ≠ none)
    (hrun : (schemaFor request).run registry = (schema, filed)) :
    Grown setting.view.maxRefDepth registry filed := by
  obtain ⟨title, path, subject, removable⟩ := request
  cases subject with
  | object inner isItem =>
    obtain ⟨rfl, rfl⟩ := Prod.mk.inj hrun
    refine grown_seed fun hnone => hplaced.2.resolve_left fun hpath => ?_
    exact htop hpath (hpath ▸ hnone)
  | block category given =>
    obtain ⟨rfl, rfl⟩ := Prod.mk.inj hrun
    exact .refl _ _

/-- **An editor that is not stale is not dropped.** -/
theorem dropped_eq {view : View}
    (hrun : (currentEditor view request).run registry = (state, dropped))
    (hfresh : ∀ category given found, request.subject = .block category given →
      registry.editor? request.path = some found →
        found.isStale (liveName? view request.path category) = false) : dropped = registry := by
  rw [run_currentEditor] at hrun
  split at hrun
  · rename_i category given found hsubject hfound
    rw [if_neg (Bool.eq_false_iff.mp (hfresh category given found hsubject hfound))] at hrun
    exact (Prod.mk.inj hrun).2.symm
  · exact (Prod.mk.inj hrun).2.symm

/-- The editor of a module that is shown fresh is not stale. -/
theorem not_stale_of_fresh {view : View} {widget : Widget}
    (hhead : widget.head? = some (headOf view request state)) (hfresh : Fresh view registry widget)
    (category : Category) (given : Option String) (found : EditorState)
    (hsubject : request.subject = .block category given)
    (hfound : registry.editor? request.path = some found) :
    found.isStale (liveName? view request.path category) = false := by
  have hself := hfresh.self
  rw [showsStale, hhead, Option.any_some] at hself
  unfold headOf roleOf at hself
  rw [hsubject] at hself
  change (registry.editor? request.path).any _ = false at hself
  rwa [hfound, Option.any_some] at hself

/-- **A rendering of fields grows** beneath the modules that they are fields of. -/
def GrowsField (setting : Setting) (next : FieldRenderer) : Prop :=
  ∀ ⦃registry : Registry⦄ ⦃base steps : Path⦄ ⦃host fragment : Value⦄ (key : String),
    setting.Hosts base host registry → Path.Rooted base → Path.Rooted (base ++ steps) →
      Covers setting.view.maxRefDepth host steps fragment →
        Grows setting (fun widget => [widget]) (next key fragment host (base ++ steps)) registry

/-- **The fields of a module grow.** -/
theorem grows_fields {next : FieldRenderer} (hsound : SoundField setting depth next)
    (hnext : GrowsField setting next) (hhosts : setting.Hosts base host registry)
    (hbase : Path.Rooted base) (hidden : List String) :
    Grows setting (fun body => body.1.map (·.2)) (fields setting.view next host base hidden)
      registry := by
  have hproper : Proper host := hhosts.keeps.proper hbase hhosts.filed
  unfold fields
  split
  · rename_i shape hclass
    have hmember : ∀ entry ∈ fieldSchemas shape hidden (Document.read? setting.view.document base),
        ∀ registry, setting.Hosts base host registry →
          let member : Renderer (String × Widget) :=
            (do return (entry.1, ← next entry.1 entry.2 host (base.child entry.1)))
          setting.Hosts base host (member.run registry).2 ∧
            Grows setting (fun member => [member.2]) member registry := by
      intro entry hentry registry hhosts
      have hcovers := covers_of_mem hproper hclass hentry
      have hfield := hsound entry.1 hhosts.keeps hbase hhosts.filed (rooted_child hbase _) hcovers
      refine ⟨hfield.hosts hbase (not_beneath_self base _) hhosts, ?_⟩
      exact (hnext entry.1 hhosts hbase (rooted_child hbase _) hcovers).map _ fun _ _ h => h
    have hmembers := grows_mapM _ hmember registry hhosts
    refine hmembers.map _ fun members before hfresh widget hwidget => ?_
    obtain ⟨member, hmember, hwidget⟩ := List.mem_flatMap.mp hwidget
    obtain rfl := List.mem_singleton.mp hwidget
    exact hfresh _ (List.mem_map_of_mem hmember)
  · rename_i hclass
    have hroot : Path.Rooted (base ++ []) := by rwa [List.append_nil]
    have hvalue := hnext "value" hhosts hbase hroot (covers_value hproper hclass)
    rw [List.append_nil] at hvalue
    exact hvalue.map _ fun _ _ h => h

/-- An editor that was fresh before is not dropped now. -/
theorem Grown.dropped_eq (h : Grown setting.view.maxRefDepth before registry)
    (hpath : Path.Rooted request.path)
    (hrun : (Render.currentEditor setting.view request).run registry = (state, dropped)) {widget : Widget}
    (hhead : widget.head? = some (headOf setting.view request state))
    (hfresh : Fresh setting.view before widget) : dropped = registry := by
  refine Render.dropped_eq hrun fun category given found hsubject hfound => ?_
  rw [h.editor hpath] at hfound
  exact not_stale_of_fresh hhead hfresh category given found hsubject hfound

/-- **The editor and the schema of a module are found as they were before.** -/
theorem Grown.found (h : Grown setting.view.maxRefDepth before registry)
    (hpath : Path.Rooted request.path) (hkeeps : setting.Keeps registry)
    (hplaced : setting.Placed registry request)
    (hcurrent : (Render.currentEditor setting.view request).run registry = (state, dropped))
    (hschema : (Render.schemaFor request).run dropped = (schema, filed)) :
    ∃ earlier early, (Render.currentEditor setting.view request).run before = (state, earlier) ∧
      (Render.schemaFor request).run earlier = (schema, early) ∧
        Grown setting.view.maxRefDepth early filed := by
  obtain ⟨earlier, hearlier, hgrown⟩ := h.currentEditor hpath hcurrent
  obtain ⟨early, hearly, hfiled⟩ := hgrown.schemaFor hpath
    (keeps_currentEditor_of hkeeps hcurrent) (hplaced.current hcurrent) hschema
  exact ⟨earlier, early, hearlier, hearly, hfiled⟩

section

variable {next : FieldRenderer} (hroot : Path.Rooted request.path)
  (hcurrent : (currentEditor setting.view request).run registry = (state, dropped))

include hroot hcurrent

/-- A module that is shown as text grows. -/
theorem grows_source {shown : Format × String × Option ParseError}
    (htext : state.bind EditorState.shownText? = some shown) :
    Grows setting (fun widget => [widget]) (module setting.view next request) registry where
  follows hbefore := by
    obtain ⟨earlier, hearlier, hgrown⟩ := hbefore.currentEditor hroot hcurrent
    rw [run_module_source hearlier htext, run_module_source hcurrent htext]
    exact ⟨rfl, hgrown⟩
  grown hbefore hfresh := by
    rw [run_module_source hcurrent htext] at hfresh ⊢
    obtain rfl := hbefore.dropped_eq hroot hcurrent rfl (hfresh _ (List.mem_singleton_self _))
    exact hbefore

variable (h : setting.Keeps registry) (hplaced : setting.Placed registry request)
  (htop : request.path = Path.root → registry.cache.peek? Path.root ≠ none)
  (hform : state.bind EditorState.shownText? = none)

include h hplaced htop hform

/-- A module whose schema is missing grows. -/
theorem grows_pending (hschema : (schemaFor request).run dropped = (none, filed)) :
    Grows setting (fun widget => [widget]) (module setting.view next request) registry where
  follows hbefore := by
    obtain ⟨earlier, early, hearlier, hearly, hgrown⟩ :=
      hbefore.found hroot h hplaced hcurrent hschema
    rw [run_module_pending hearlier hform hearly, run_module_pending hcurrent hform hschema]
    have hloading := congrArg (·.isLoading request.path) hgrown.bare
    exact ⟨congrArg (Widget.pending (headOf setting.view request state)) hloading.symm, hgrown⟩
  grown hbefore hfresh := by
    rw [run_module_pending hcurrent hform hschema] at hfresh ⊢
    obtain rfl := hbefore.dropped_eq hroot hcurrent rfl (hfresh _ (List.mem_singleton_self _))
    exact hbefore.trans (grown_schemaFor hplaced htop hschema)

/-- **A module that is shown by its schema grows**, if its fields do. -/
theorem grows_form (hschema : (schemaFor request).run dropped = (some host, filed))
    (hbody : Grows setting (fun body => body.1.map (·.2))
      (fields setting.view next host request.path (hiddenKeys request.subject)) filed) :
    Grows setting (fun widget => [widget]) (module setting.view next request) registry where
  follows hbefore := by
    obtain ⟨earlier, early, hearlier, hearly, hgrown⟩ :=
      hbefore.found hroot h hplaced hcurrent hschema
    obtain ⟨hsame, hlast⟩ := hbody.follows hgrown
    rw [run_module_form hearlier hform hearly, run_module_form hcurrent hform hschema]
    refine ⟨?_, hlast⟩
    dsimp only
    rw [hsame]
  grown hbefore hfresh := by
    rw [run_module_form hcurrent hform hschema] at hfresh ⊢
    have hfreshForm := hfresh _ (List.mem_singleton_self _)
    obtain rfl := hbefore.dropped_eq hroot hcurrent rfl hfreshForm
    refine hbody.grown (hbefore.trans (grown_schemaFor hplaced htop hschema)) ?_
    intro widget hwidget
    obtain ⟨member, hmember, rfl⟩ := List.mem_map.mp hwidget
    exact (Widget.every_form.mp hfreshForm).2 member hmember

end

/-- **A module at its place grows.** -/
theorem grows_module (request : ModuleRequest)
    (hsound : SoundField setting (depth + 1) (setting.fieldAt depth))
    (hnext : GrowsField setting (setting.fieldAt depth)) (hroot : Path.Rooted request.path)
    (h : setting.Keeps registry) (hplaced : setting.Placed registry request)
    (htop : request.path = Path.root → registry.cache.peek? Path.root ≠ none) :
    Grows setting (fun widget => [widget])
      (module setting.view (setting.fieldAt depth) request) registry := by
  obtain ⟨state, dropped, hcurrent⟩ :
      ∃ state dropped, (currentEditor setting.view request).run registry = (state, dropped) :=
    ⟨_, _, rfl⟩
  cases hform : state.bind EditorState.shownText? with
  | some shown => exact grows_source hroot hcurrent hform
  | none =>
    obtain ⟨filed, schema, hfiled, -, -⟩ :=
      exists_filed (keeps_currentEditor_of h hcurrent) (hplaced.current hcurrent)
    cases schema with
    | none => exact grows_pending hroot hcurrent h hplaced htop hform hfiled.run
    | some host =>
      exact grows_form hroot hcurrent h hplaced htop hform hfiled.run
        (grows_fields hsound hnext ⟨hfiled.keeps, hfiled.found⟩ hroot (hiddenKeys request.subject))

/-- **A module whose editor is not stale keeps its editor and its schema.** -/
theorem module_keeps_itself (request : ModuleRequest)
    (hsound : SoundField setting (depth + 1) (setting.fieldAt depth))
    (hdocument : Regular setting.view.document) (hroot : Path.Rooted request.path)
    (h : setting.Keeps registry) (hplaced : setting.Placed registry request)
    (htop : request.path = Path.root → registry.cache.peek? Path.root ≠ none)
    (hfresh : ∀ category given found, request.subject = .block category given →
      registry.editor? request.path = some found →
        found.isStale (liveName? setting.view request.path category) = false) :
    ∃ filed, Grown setting.view.maxRefDepth registry filed ∧
      Same ((module setting.view (setting.fieldAt depth) request).run registry).2 filed
        request.path := by
  obtain ⟨state, dropped, hcurrent⟩ :
      ∃ state dropped, (currentEditor setting.view request).run registry = (state, dropped) :=
    ⟨_, _, rfl⟩
  obtain rfl := dropped_eq hcurrent hfresh
  cases htext : state.bind EditorState.shownText? with
  | some shown =>
    rw [run_module_source hcurrent htext]
    exact ⟨dropped, .refl _ _, .refl _ _⟩
  | none =>
    obtain ⟨filed, schema, hfiled, -, -⟩ := exists_filed h hplaced
    refine ⟨filed, grown_schemaFor hplaced htop hfiled.run, ?_⟩
    cases schema with
    | none =>
      rw [run_module_pending hcurrent htext hfiled.run]
      exact .refl _ _
    | some host =>
      rw [run_module_form hcurrent htext hfiled.run]
      exact (sound_fields hsound hdocument hfiled.keeps hroot hfiled.found _).frame request.path
        hroot (not_beneath_self _ _)

/-! ## Fields -/

section

variable (hsound : SoundField setting (depth + 1) (setting.fieldAt depth))
  (hnext : GrowsField setting (setting.fieldAt depth)) (hdocument : Regular setting.view.document)
  (hbase : Path.Rooted base)

include hsound hnext hdocument hbase

/-- **A module that the schema of another calls for grows**, and leaves the other as it was. -/
theorem grows_placed {path : Path} {title : Option String} {subject : Subject} {removable : Bool}
    (hhosts : setting.Hosts base host registry) (hpath : Path.Rooted path)
    (hplace : placeAt setting.view.maxRefDepth host steps = some (Subject.place subject))
    (hproper : ∀ schema isItem, subject = .object schema isItem → Proper schema)
    (hsplit : path = base ++ steps) :
    let renderer := module setting.view (setting.fieldAt depth) ⟨title, path, subject, removable⟩
    setting.Hosts base host (renderer.run registry).2 ∧
      Grows setting (fun widget => [widget]) renderer registry := by
  let request : ModuleRequest := ⟨title, path, subject, removable⟩
  have hplaced : setting.Placed registry request :=
    placed_of_placeAt hbase hhosts.filed hplace hproper hsplit
  have hsteps := Session.steps_ne_nil hplace
  refine ⟨?_, ?_⟩
  · refine (sound_module request hsound hdocument hpath hhosts.keeps hplaced).hosts hbase ?_ hhosts
    intro hbelow
    have hbeneath : base ++ steps <+: base := hsplit ▸ hbelow
    exact not_beneath_self base steps (beneath_of_le_append hsteps hbeneath)
  · refine grows_module request hsound hnext hpath hhosts.keeps hplaced fun hroot => ?_
    exact absurd (hsplit.symm.trans hroot) (Session.append_ne_root hbase hsteps)

/-- The modules of a sequence grow. -/
theorem grows_moduleList (hhosts : setting.Hosts base host registry)
    (hpath : Path.Rooted (base ++ steps)) (key : String) (subject : Subject)
    (hplace : ∀ i, placeAt setting.view.maxRefDepth host (steps ++ [.index i])
      = some (Subject.place subject))
    (hproper : ∀ schema isItem, subject = .object schema isItem → Proper schema)
    (list : List Widget → Widget)
    (hnodes : ∀ items, (list items).nodes = list items :: Widget.nodesOfItems items) :
    Grows setting (fun widget => [widget])
      (itemModules setting.view (setting.fieldAt depth) key (base ++ steps) subject >>= fun items =>
        pure (list items)) registry := by
  have hitem : ∀ i ∈ List.range (itemCount setting.view (base ++ steps)), ∀ registry,
      setting.Hosts base host registry →
        let renderer := module setting.view (setting.fieldAt depth)
          ⟨some s!"{key}[{i}]", (base ++ steps).item i, subject, true⟩
        setting.Hosts base host (renderer.run registry).2 ∧
          Grows setting (fun widget => [widget]) renderer registry := by
    intro i hi registry hhosts
    have hword := lt_of_lt_itemCount hdocument (List.mem_range.mp hi)
    exact grows_placed hsound hnext hdocument hbase hhosts (rooted_item hpath hword) (hplace i)
      hproper (List.append_assoc _ _ _)
  refine (grows_mapM _ hitem registry hhosts).map list fun items before hfresh item hitem => ?_
  obtain ⟨other, hother, hitem⟩ := List.mem_flatMap.mp hitem
  obtain rfl := List.mem_singleton.mp hitem
  exact ((Widget.every_list (hnodes items)).mp (hfresh _ (List.mem_singleton_self _))).2 item hother

/-- **The control for a sequence grows.** -/
theorem grows_array (hhosts : setting.Hosts base host registry)
    (hpath : Path.Rooted (base ++ steps)) (key : String) {items : Option Value}
    (hregular : Regular (items.getD .null))
    (hitem : ∀ i place, placeOf setting.view.maxRefDepth host (items.getD .null) = some place →
      placeAt setting.view.maxRefDepth host (steps ++ [.index i]) = some place) :
    Grows setting (fun widget => [widget])
      (array setting.view (setting.fieldAt depth) key items host (base ++ steps)) registry := by
  unfold array
  dsimp only
  split
  · rename_i category hclass
    exact grows_moduleList hsound hnext hdocument hbase hhosts hpath key (.block category none)
      (fun i => hitem i _ (placeOf_of_block hclass)) nofun (.blockList _ category) fun _ => rfl
  · exact grows_pure _
  · rename_i shape hclass
    have hplace := placeOf_of_object hclass
    have hproper := proper_of_placeOf (hhosts.keeps.proper hbase hhosts.filed) hregular hplace
    refine grows_moduleList hsound hnext hdocument hbase hhosts hpath key (.object _ true)
      (fun i => hitem i _ hplace) (fun schema isItem hsubject => ?_) (.objectList _ _) fun _ => rfl
    obtain ⟨rfl, -⟩ := Subject.object.inj hsubject
    exact hproper
  · exact grows_pure _
  · exact grows_pure _

/-- A module that a fragment asks for grows. -/
theorem grows_fieldModule (hhosts : setting.Hosts base host registry)
    (hpath : Path.Rooted (base ++ steps)) {fragment : Value} (title : Option String)
    (subject : Subject) (removable : Bool)
    (hcovers : Covers setting.view.maxRefDepth host steps fragment)
    (hplace : placeOf setting.view.maxRefDepth host fragment = some (Subject.place subject)) :
    Grows setting (fun widget => [widget])
      (module setting.view (setting.fieldAt depth) ⟨title, base ++ steps, subject, removable⟩)
      registry := by
  refine (grows_placed hsound hnext hdocument hbase hhosts hpath (hcovers.self _ hplace) ?_ rfl).2
  rintro schema isItem rfl
  exact proper_of_placeOf (hhosts.keeps.proper hbase hhosts.filed) hcovers.regular hplace

end

/-- **The control for a fragment grows**, if those of the next level do. -/
theorem grows_openField (hsound : SoundField setting (depth + 1) (setting.fieldAt depth))
    (hnext : GrowsField setting (setting.fieldAt depth))
    (hdocument : Regular setting.view.document) :
    GrowsField setting (openField setting.view (setting.fieldAt depth)) := by
  intro registry base steps host fragment key hhosts hbase hpath hcovers
  unfold openField
  dsimp only
  split
  · exact grows_pure _
  · rename_i resolved hresolved
    have htarget : target? setting.view.maxRefDepth host fragment = resolved := by
      rw [target?, hresolved]
      rfl
    subst htarget
    split
    · rename_i items hclass
      have hhost := hhosts.keeps.proper hbase hhosts.filed
      have hregular := regular_items hhost.regular hcovers.regular hclass
      refine grows_array hsound hnext hdocument hbase hhosts hpath key hregular
        fun i place hplace => ?_
      refine hcovers.item i place ?_
      rw [itemPlaceOf, hclass]
      exact hplace
    · rename_i category hclass
      split
      · exact grows_pure _
      · have hblock := grows_fieldModule hsound hnext hdocument hbase hhosts hpath (some key)
          (.block category none) true hcovers (placeOf_of_block hclass)
        refine hblock.map _ fun block before hfresh widget hwidget => ?_
        obtain rfl := List.mem_singleton.mp hwidget
        exact (Widget.every_filledSlot.mp (hfresh _ (List.mem_singleton_self _))).2
    · rename_i shape hclass
      exact grows_fieldModule hsound hnext hdocument hbase hhosts hpath (some key) (.object _ false)
        false hcovers (placeOf_of_object hclass)
    · exact grows_pure _
    · exact grows_pure _

/-- **Every field grows**, whatever levels are left. -/
theorem grows_field (hdocument : Regular setting.view.document) (depth : Nat) :
    GrowsField setting (setting.fieldAt depth) := by
  refine Setting.fieldAt_induction (motive := fun _ => GrowsField setting) (fun depth => ?_)
    (fun depth hnext => grows_openField (sound_field hdocument (depth + 1)) hnext hdocument) depth
  intro registry base steps host fragment key hhosts hbase hpath hcovers
  exact grows_pure _

end Render

end SchemaForms
