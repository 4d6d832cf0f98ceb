import SchemaForms.Session.Basic

/-!
# Proofs/Render/Parametric — a rendering respects what its effects respect

What a rendering finds out about a path is its editor, its schema and whether it is loading.  It has
two effects on the registry: it drops what is filed at and below a path, and it files a schema where
there is none.  A relation is `Parametric` in a region if registries that it relates are the `Same`
there and both effects respect it.  A rendering in the region then shows the same on both registries
and leaves them related (`respects_field`, `respects_module`).  What a single registry keeps is the
diagonal case (`keeps_render`).
-/

namespace SchemaForms

/-! ## The widgets of a tree -/

namespace Widget

/-- Every widget in a widget has a property, itself included. -/
def Every (P : Widget → Prop) (widget : Widget) : Prop := ∀ node ∈ widget.nodes, P node

variable {P : Widget → Prop} {widget : Widget} {items : List Widget}

theorem Every.self (h : Every P widget) : P widget := by
  cases widget <;> exact h _ List.mem_cons_self

theorem nodesOfItems_eq_flatMap (items : List Widget) : nodesOfItems items = items.flatMap nodes := by
  induction items with
  | nil => rfl
  | cons item items ih => rw [nodesOfItems, ih, List.flatMap_cons]

theorem nodesOfFields_eq_flatMap (fields : List (String × Widget)) :
    nodesOfFields fields = fields.flatMap fun field => field.2.nodes := by
  induction fields with
  | nil => rfl
  | cons field fields ih => rw [nodesOfFields, ih, List.flatMap_cons]

theorem mem_nodesOfItems {node : Widget} :
    node ∈ nodesOfItems items ↔ ∃ item ∈ items, node ∈ item.nodes := by
  rw [nodesOfItems_eq_flatMap, List.mem_flatMap]

theorem mem_nodesOfFields {node : Widget} {fields : List (String × Widget)} :
    node ∈ nodesOfFields fields ↔ ∃ field ∈ fields, node ∈ field.2.nodes := by
  rw [nodesOfFields_eq_flatMap, List.mem_flatMap]

theorem every_leaf (hnodes : widget.nodes = [widget]) (h : P widget) : Every P widget := by
  intro node hnode
  rw [hnodes] at hnode
  obtain rfl := List.mem_singleton.mp hnode
  exact h

theorem every_list (hnodes : widget.nodes = widget :: nodesOfItems items) :
    Every P widget ↔ P widget ∧ ∀ item ∈ items, Every P item := by
  rw [Every, hnodes, List.forall_mem_cons]
  refine and_congr_right fun _ => ⟨fun h item hitem node hnode => ?_, fun h node hnode => ?_⟩
  · exact h node (mem_nodesOfItems.mpr ⟨item, hitem, hnode⟩)
  · obtain ⟨item, hitem, hnode⟩ := mem_nodesOfItems.mp hnode
    exact h item hitem node hnode

theorem every_form {head : ModuleHead} {fields : List (String × Widget)} {isOpen : Bool} :
    Every P (.form head fields isOpen)
      ↔ P (.form head fields isOpen) ∧ ∀ field ∈ fields, Every P field.2 := by
  rw [Every, nodes, List.forall_mem_cons]
  refine and_congr_right fun _ => ⟨fun h field hfield node hnode => ?_, fun h node hnode => ?_⟩
  · exact h node (mem_nodesOfFields.mpr ⟨field, hfield, hnode⟩)
  · obtain ⟨field, hfield, hnode⟩ := mem_nodesOfFields.mp hnode
    exact h field hfield node hnode

theorem every_filledSlot {path : Path} {category : Category} {block : Widget} :
    Every P (.filledSlot path category block)
      ↔ P (.filledSlot path category block) ∧ Every P block := by
  rw [Every, nodes, List.forall_mem_cons]
  rfl

end Widget

namespace Render

/-! ## Relations of registries -/

/-- Two registries agree on a path. -/
structure Same (a b : Registry) (path : Path) : Prop where
  editor : a.editor? path = b.editor? path
  schema : a.cache.peek? path = b.cache.peek? path
  loading : a.cache.isLoading path = b.cache.isLoading path

theorem Same.refl (a : Registry) (path : Path) : Same a a path := ⟨rfl, rfl, rfl⟩

/-- A region that contains all that is below its paths. -/
def Downward (region : Path → Prop) : Prop :=
  ∀ {path below : Path}, path <+: below → region path → region below

/-- **A relation of registries that renderings in a region respect.** -/
structure Parametric (region : Path → Prop) (R : Registry → Registry → Prop) : Prop where
  same : ∀ {a b : Registry} {path : Path}, R a b → region path → Same a b path
  drop : ∀ {a b : Registry} {path : Path}, R a b → region path →
    R (a.dropUnder path) (b.dropUnder path)
  seed : ∀ {a b : Registry} {path : Path} (schema : Value), R a b → region path →
    R { a with cache := a.cache.seed path schema } { b with cache := b.cache.seed path schema }

variable {α β : Type} {R : Registry → Registry → Prop} {Q : α → Prop} {Q' : β → Prop}
  {renderer : Renderer α}

/-- Two results that are the same, and leave registries related. -/
structure Coincide (R : Registry → Registry → Prop) (Q : α → Prop) (x y : α × Registry) : Prop where
  same : x.1 = y.1
  related : R x.2 y.2
  good : Q x.1

/-- **A rendering that respects a relation**, and what it always yields. -/
def Respects (R : Registry → Registry → Prop) (Q : α → Prop) (renderer : Renderer α) : Prop :=
  ∀ a b, R a b → Coincide R Q (renderer.run a) (renderer.run b)

/-! ## How renderings are put together -/

theorem respects_pure {a : α} (h : Q a) : Respects R Q (pure a : Renderer α) :=
  fun _ _ hrelated => ⟨rfl, hrelated, h⟩

theorem respects_bind {next : α → Renderer β} (hfirst : Respects R Q renderer)
    (hnext : ∀ a, Q a → Respects R Q' (next a)) : Respects R Q' (renderer >>= next) := by
  intro a b hrelated
  obtain ⟨hsame, hbetween, hgood⟩ := hfirst a b hrelated
  change Coincide R Q' ((next (renderer.run a).1).run (renderer.run a).2)
    ((next (renderer.run b).1).run (renderer.run b).2)
  rw [← hsame]
  exact hnext _ hgood _ _ hbetween

theorem respects_mapM {render : α → Renderer β} (items : List α)
    (hrender : ∀ a ∈ items, Respects R Q' (render a)) :
    Respects R (fun bs => ∀ b ∈ bs, Q' b) (items.mapM render) := by
  induction items with
  | nil => exact respects_pure nofun
  | cons item items ih =>
    rw [List.mapM_cons]
    refine respects_bind (hrender item List.mem_cons_self) fun b hb => ?_
    refine respects_bind (ih fun a ha => hrender a (List.mem_cons_of_mem _ ha)) fun bs hbs => ?_
    exact respects_pure (List.forall_mem_cons.mpr ⟨hb, hbs⟩)

/-! ## The parts of a rendering -/

variable {region : Path → Prop} {view : View} {next : FieldRenderer}

/-- What becomes of the editor of a module. -/
theorem run_currentEditor (view : View) (request : ModuleRequest) (registry : Registry) :
    (currentEditor view request).run registry =
      match request.subject, registry.editor? request.path with
      | .block category _, some state =>
        if state.isStale (liveName? view request.path category) then
          (none, registry.dropUnder request.path)
        else (some state, registry)
      | _, state => (state, registry) := by
  obtain ⟨title, path, subject, removable⟩ := request
  cases subject with
  | object schema isItem => rfl
  | block category given =>
    unfold currentEditor
    cases heditor : registry.editor? path with
    | none =>
      simp [heditor]
      rfl
    | some state =>
      by_cases hstale : state.isStale (liveName? view path category) = true <;>
        simp [heditor, hstale] <;> rfl

/-- The modules in a widget that lack their schema are all in a region. -/
def PendsIn (region : Path → Prop) : Widget → Prop :=
  Widget.Every fun node => ∀ head, node.pendingHead? = some head → region head.path

/-- A widget that is not a module that lacks its schema does not pend itself. -/
theorem pends_of_head_none {widget : Widget} (h : widget.pendingHead? = none) :
    ∀ head, widget.pendingHead? = some head → region head.path := by
  intro head hhead
  cases h.symm.trans hhead

theorem pendsIn_leaf {widget : Widget} (hnodes : widget.nodes = [widget])
    (h : widget.pendingHead? = none) : PendsIn region widget :=
  Widget.every_leaf hnodes (pends_of_head_none h)

theorem pendsIn_scalar (kind : Primitive) (options : Option (List String)) (path : Path)
    (value : Option Value) : PendsIn region (scalar kind options path value) := by
  cases kind <;> cases options <;> exact pendsIn_leaf rfl rfl

section

variable (hR : Parametric region R)

include hR

theorem respects_currentEditor {request : ModuleRequest} (hpath : region request.path) :
    Respects R (fun _ => True) (currentEditor view request) := by
  intro a b hrelated
  rw [run_currentEditor, run_currentEditor, (hR.same hrelated hpath).editor]
  split
  · split
    · exact ⟨rfl, hR.drop hrelated hpath, trivial⟩
    · exact ⟨rfl, hrelated, trivial⟩
  · exact ⟨rfl, hrelated, trivial⟩

theorem respects_schemaFor {request : ModuleRequest} (hpath : region request.path) :
    Respects R (fun _ => True) (schemaFor request) := by
  intro a b hrelated
  obtain ⟨title, path, subject, removable⟩ := request
  cases subject with
  | object schema isItem =>
    have hfiled := hR.seed schema hrelated hpath
    exact ⟨(hR.same hfiled hpath).schema, hfiled, trivial⟩
  | block category given => exact ⟨(hR.same hrelated hpath).schema, hrelated, trivial⟩

omit hR in
/-- **The fields of a module respect what a single field does**, and show what each of them shows. -/
theorem respects_fields {Q : Widget → Prop} {schema : Value} {path : Path}
    (hself : ∀ key fragment, Respects R Q (next key fragment schema path))
    (hchild : ∀ key fragment, Respects R Q (next key fragment schema (path.child key)))
    (hidden : List String) :
    Respects R (fun body => ∀ member ∈ body.1, Q member.2)
      (fields view next schema path hidden) := by
  have hmember : ∀ entry : String × Value,
      Respects R (fun member : String × Widget => Q member.2) (do
        return (entry.1, ← next entry.1 entry.2 schema (path.child entry.1))) := by
    intro entry
    exact respects_bind (hchild _ _) fun widget hwidget => respects_pure hwidget
  unfold fields
  split
  · refine respects_bind (respects_mapM _ fun entry _ => hmember entry) fun members hmembers => ?_
    exact respects_pure hmembers
  · refine respects_bind (hself _ _) fun widget hwidget => respects_pure ?_
    exact List.forall_mem_singleton.mpr hwidget

omit hR in
/-- **The modules of a list respect what a single one does**, and show what each of them shows. -/
theorem respects_itemModules {Q : Widget → Prop} {path : Path} {subject : Subject}
    (hitem : ∀ title i, Respects R Q (module view next ⟨title, path.item i, subject, true⟩))
    (key : String) :
    Respects R (fun items => ∀ item ∈ items, Q item)
      (itemModules view next key path subject) :=
  respects_mapM _ fun i _ => hitem _ i

variable (hdown : Downward region)
  (hnext : ∀ key fragment root path, region path →
    Respects R (PendsIn region) (next key fragment root path))

include hdown hnext

/-- **A module respects what its effects respect.** -/
theorem respects_module {request : ModuleRequest} (hpath : region request.path) :
    Respects R (PendsIn region) (module view next request) := by
  unfold module
  refine respects_bind (respects_currentEditor hR hpath) fun state _ => ?_
  split
  · exact respects_pure (pendsIn_leaf rfl rfl)
  · refine respects_bind (respects_schemaFor hR hpath) fun schema _ => ?_
    split
    · refine respects_bind (respects_fields (fun _ _ => hnext _ _ _ _ hpath)
        (fun key _ => hnext _ _ _ _ (hdown (List.prefix_append _ [Segment.key key]) hpath)) _)
        fun body hbody => ?_
      exact respects_pure (Widget.every_form.mpr ⟨pends_of_head_none rfl, hbody⟩)
    · intro a b hrelated
      have hloading := (hR.same hrelated hpath).loading
      refine ⟨congrArg (Widget.pending (headOf view request state)) hloading, hrelated,
        Widget.every_leaf rfl fun head hhead => ?_⟩
      obtain rfl := Option.some.inj hhead
      exact hpath

theorem respects_array {path : Path} (hpath : region path) (key : String) (items : Option Value)
    (root : Value) : Respects R (PendsIn region) (array view next key items root path) := by
  have hmodules (subject : Subject) : Respects R (fun items => ∀ item ∈ items, PendsIn region item)
      (itemModules view next key path subject) :=
    respects_itemModules (fun _ _ =>
      respects_module hR hdown hnext (hdown (List.prefix_append path _) hpath)) key
  unfold array
  dsimp only
  split
  · refine respects_bind (hmodules _) fun modules hmodules => ?_
    exact respects_pure ((Widget.every_list rfl).mpr ⟨pends_of_head_none rfl, hmodules⟩)
  · refine respects_pure ((Widget.every_list rfl).mpr ⟨pends_of_head_none rfl, fun item hitem => ?_⟩)
    obtain ⟨i, -, rfl⟩ := List.mem_map.mp hitem
    exact pendsIn_scalar _ _ _ _
  · refine respects_bind (hmodules _) fun modules hmodules => ?_
    exact respects_pure ((Widget.every_list rfl).mpr ⟨pends_of_head_none rfl, hmodules⟩)
  · exact respects_pure (pendsIn_leaf rfl rfl)
  · exact respects_pure (pendsIn_leaf rfl rfl)

theorem respects_openField {path : Path} (hpath : region path) (key : String)
    (fragment root : Value) :
    Respects R (PendsIn region) (openField view next key fragment root path) := by
  unfold openField
  split
  · exact respects_pure (pendsIn_leaf rfl rfl)
  · split
    · exact respects_array hR hdown hnext hpath _ _ _
    · dsimp only
      split
      · exact respects_pure (pendsIn_leaf rfl rfl)
      · refine respects_bind (respects_module hR hdown hnext ?_) fun block hpends => ?_
        · exact hpath
        · exact respects_pure (Widget.every_filledSlot.mpr ⟨pends_of_head_none rfl, hpends⟩)
    · exact respects_module hR hdown hnext hpath
    · exact respects_pure (pendsIn_scalar _ _ _ _)
    · exact respects_pure (pendsIn_leaf rfl rfl)

end

/-- **A field respects what its effects respect**, whatever levels are left. -/
theorem respects_field (hR : Parametric region R) (hdown : Downward region) (room : Nat)
    (key : String) (fragment root : Value) (path : Path) (hpath : region path) :
    Respects R (PendsIn region) (field view room key fragment root path) := by
  induction room generalizing key fragment root path with
  | zero => exact respects_pure (pendsIn_leaf rfl rfl)
  | succ room ih => exact respects_openField hR hdown ih hpath key fragment root

/-! ## What a registry keeps -/

variable {P : Registry → Prop}

/-- A property that the effects of rendering keep in a region. -/
structure Stable (region : Path → Prop) (P : Registry → Prop) : Prop where
  drop : ∀ {registry : Registry} {path : Path}, region path → P registry →
    P (registry.dropUnder path)
  seed : ∀ {registry : Registry} {path : Path} (schema : Value), region path → P registry →
    P { registry with cache := registry.cache.seed path schema }

/-- **What is kept is a relation of a registry to itself.** -/
theorem Stable.parametric (hP : Stable region P) :
    Parametric region fun a b => a = b ∧ P a where
  same := by
    rintro a _ path ⟨rfl, -⟩ -
    exact .refl a path
  drop := by
    rintro a _ path ⟨rfl, h⟩ hpath
    exact ⟨rfl, hP.drop hpath h⟩
  seed := by
    rintro a _ path schema ⟨rfl, h⟩ hpath
    exact ⟨rfl, hP.seed schema hpath h⟩

end Render

namespace Session

variable {region : Path → Prop} {path : Path}

/-- **The rendering of an editor respects what its effects respect.** -/
theorem respects_render {R : Registry → Registry → Prop} (hR : Render.Parametric region R)
    (hdown : Render.Downward region) (session : Session) (hpath : region path) :
    Render.Respects R (Render.PendsIn region)
      (Render.module session.view (session.fieldAt 0) (session.moduleOf path)) :=
  Render.respects_module hR hdown (Render.respects_field hR hdown _) hpath

/-- **Rendering an editor keeps what the effects of rendering keep** at its path and below, and
leaves the rest of the session alone. -/
theorem keeps_render {P : Registry → Prop} (path : Path)
    (hP : Render.Stable (fun below => path <+: below) P) (session : Session)
    (h : P session.registry) : P (session.render path).2.registry := by
  have hdown : Render.Downward fun below => path <+: below := fun hle hpath => hpath.trans hle
  exact (respects_render hP.parametric hdown session (List.prefix_refl path) _ _ ⟨rfl, h⟩).related.2

end Session

end SchemaForms
