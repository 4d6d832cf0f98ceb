import SchemaForms.Proofs.Path.Regions
import SchemaForms.Proofs.Render.Sound

/-!
# Proofs/Render/Advancing — renderings that get further as blocks are mounted

Below an editor whose schema is at hand, a rendering `Advances` in a region if it changes the registry
there only, shows the same again as long as nothing changes there, and gets further when the blocks
that lack their schema are mounted: whatever lacks its schema then is deeper than one of these blocks.
Parts in regions apart from each other advance one after the other (`advancing_mapM`).
-/

namespace SchemaForms.Widget

/-- The modules in a widget that lack their schema, each with the number of forms around it. -/
def missing (depth : Nat) (widget : Widget) : List (Nat × ModuleHead) :=
  (widget.levels depth).filterMap fun entry => entry.2.pendingHead?.map fun head => (entry.1, head)

variable {depth : Nat} {widget : Widget} {items : List Widget}

theorem map_missing (depth : Nat) (widget : Widget) :
    (widget.missing depth).map (·.2) = widget.pendingModules := by
  rw [missing, pendingModules, ← map_levels depth, List.filterMap_map, List.map_filterMap]
  refine congrArg (fun f => List.filterMap f _) (funext fun entry => ?_)
  cases hhead : entry.2.pendingHead? <;> simp [hhead]

theorem missing_list (hlevels : widget.levels depth = (depth, widget) :: levelsOfItems depth items)
    (hnone : widget.pendingHead? = none) : widget.missing depth = items.flatMap (missing depth) := by
  have hitems : ∀ items : List Widget, (levelsOfItems depth items).filterMap
      (fun entry => entry.2.pendingHead?.map fun head => (entry.1, head))
        = items.flatMap (missing depth) := by
    intro items
    induction items with
    | nil => rfl
    | cons item items ih =>
      rw [levelsOfItems, List.filterMap_append, ih, List.flatMap_cons]
      rfl
  rw [missing, hlevels, List.filterMap_cons_none (by rw [hnone]; rfl), hitems]

theorem missing_form (head : ModuleHead) (fields : List (String × Widget)) (isOpen : Bool) :
    (form head fields isOpen).missing depth = fields.flatMap fun field => field.2.missing (depth + 1) := by
  rw [missing, levels, List.filterMap_cons_none rfl]
  induction fields with
  | nil => rfl
  | cons field fields ih =>
    rw [levelsOfFields, List.filterMap_append, ih, List.flatMap_cons]
    rfl

theorem missing_filledSlot (path : Path) (category : Category) (block : Widget) :
    (filledSlot path category block).missing depth = block.missing depth := by
  rw [missing, levels, List.filterMap_cons_none rfl]
  rfl

mutual

theorem le_of_mem_levels (depth : Nat) (widget : Widget) :
    ∀ entry ∈ widget.levels depth, depth ≤ entry.1 := by
  cases widget with
  | blockList path category items =>
    exact List.forall_mem_cons.mpr ⟨Nat.le_refl _, le_of_mem_levelsOfItems depth items⟩
  | primitiveList path kind items =>
    exact List.forall_mem_cons.mpr ⟨Nat.le_refl _, le_of_mem_levelsOfItems depth items⟩
  | objectList path template items =>
    exact List.forall_mem_cons.mpr ⟨Nat.le_refl _, le_of_mem_levelsOfItems depth items⟩
  | filledSlot path category block =>
    exact List.forall_mem_cons.mpr ⟨Nat.le_refl _, le_of_mem_levels depth block⟩
  | form head fields isOpen =>
    refine List.forall_mem_cons.mpr ⟨Nat.le_refl _, fun entry hentry => ?_⟩
    exact Nat.le_of_succ_le (le_of_mem_levelsOfFields (depth + 1) fields entry hentry)
  | _ => exact List.forall_mem_singleton.mpr (Nat.le_refl _)

theorem le_of_mem_levelsOfItems (depth : Nat) (items : List Widget) :
    ∀ entry ∈ levelsOfItems depth items, depth ≤ entry.1 := by
  cases items with
  | nil => exact nofun
  | cons item items =>
    exact List.forall_mem_append.mpr ⟨le_of_mem_levels depth item, le_of_mem_levelsOfItems depth items⟩

theorem le_of_mem_levelsOfFields (depth : Nat) (fields : List (String × Widget)) :
    ∀ entry ∈ levelsOfFields depth fields, depth ≤ entry.1 := by
  cases fields with
  | nil => exact nofun
  | cons field fields =>
    exact List.forall_mem_append.mpr
      ⟨le_of_mem_levels depth field.2, le_of_mem_levelsOfFields depth fields⟩

end

/-- What a widget lacks is no less deep than the widget. -/
theorem le_of_mem_missing {entry : Nat × ModuleHead} (h : entry ∈ widget.missing depth) :
    depth ≤ entry.1 := by
  obtain ⟨found, hfound, hhead⟩ := List.mem_filterMap.mp h
  obtain ⟨head, -, rfl⟩ := Option.map_eq_some_iff.mp hhead
  exact le_of_mem_levels depth widget found hfound

end SchemaForms.Widget

namespace SchemaForms.Render

open SchemaForms.Path (Fitting)
open Schema (Proper)

/-! ## Registries that agree -/

/-- Two registries agree on the paths in a region. -/
def Concord (region : Path → Prop) (a b : Registry) : Prop :=
  ∀ path, Fitting path → region path → Same a b path

/-- Two registries agree on all paths. -/
def Accord (a b : Registry) : Prop := ∀ path, Fitting path → Same a b path

variable {region region' : Path → Prop} {a b c : Registry}

theorem Accord.refl (a : Registry) : Accord a a := fun path _ => .refl a path

theorem Accord.trans (hab : Accord a b) (hbc : Accord b c) : Accord a c :=
  fun path hpath => (hab path hpath).trans (hbc path hpath)

theorem Accord.on (h : Accord a b) (hbc : Concord region b c) : Concord region a c :=
  fun path hpath hin => (h path hpath).trans (hbc path hpath hin)

theorem Concord.mono (h : Concord region a b) (hle : ∀ path, region' path → region path) :
    Concord region' a b := fun path hpath hin => h path hpath (hle path hin)

/-- A region with all that is written like its paths. -/
def KeyClosed (region : Path → Prop) : Prop :=
  ∀ ⦃path other : Path⦄, path.key = other.key → region path → region other

/-! ## The editor that is rendered -/

/-- **An editor whose schema is at hand**, with what its rendering depends on beside the registry. -/
structure Stage where
  view : View
  maxRenderDepth : Nat
  /-- The path of the editor. -/
  top : Path
  /-- The state of the editor. -/
  state : EditorState
  /-- The schema that is filed for the editor. -/
  schema : Value
  regular : view.document.Regular
  fitting : Fitting top
  /-- The editor was not mounted for the block at its path. -/
  fresh : ∀ live, state.isStale live = false

namespace Stage

/-- **The editor is there**, no load is under way, and every schema that is filed describes a
module. -/
structure Keeps (stage : Stage) (registry : Registry) : Prop where
  idle : registry.cache.inFlight = []
  editor : registry.editor? stage.top = some stage.state
  schema : registry.cache.peek? stage.top = some stage.schema
  proper : ∀ {path : Path} {host : Value}, Fitting path → registry.cache.peek? path = some host →
    Proper host

/-- A block that lacks its schema, with the number of forms around it, which is bounded. -/
structure Lacks (stage : Stage) (region : Path → Prop) (registry : Registry)
    (entry : Nat × ModuleHead) : Prop where
  level : entry.1 ≤ stage.maxRenderDepth + 1
  fitting : Fitting entry.2.path
  inside : region entry.2.path
  missing : registry.cache.peek? entry.2.path = none
  block : ∃ category given, entry.2.role = .block category given

/-- **A block that was mounted**: its editor shows a text, or has its schema and belongs to the block
that the document holds. -/
def Opened (stage : Stage) (registry : Registry) (head : ModuleHead) : Prop :=
  ∃ category given state, head.role = .block category given ∧
    registry.editor? head.path = some state ∧
    state.isStale (liveName? stage.view head.path category) = false ∧
    (state.shownText? ≠ none ∨ registry.cache.peek? head.path ≠ none)

/-- **All that lacked its schema was mounted**, and nothing else changed. -/
structure Served (stage : Stage) (region : Path → Prop) (entries : List (Nat × ModuleHead))
    (later before : Registry) : Prop where
  opened : ∀ entry ∈ entries, stage.Opened later entry.2
  rest : Concord (fun path => region path ∧ ∀ entry ∈ entries, entry.2.path.key ≠ path.key) later
    before

variable {stage : Stage} {entries : List (Nat × ModuleHead)} {entry : Nat × ModuleHead}

theorem Keeps.same (ha : stage.Keeps a) (hb : stage.Keeps b) {path : Path}
    (heditor : a.editor? path = b.editor? path)
    (hschema : a.cache.peek? path = b.cache.peek? path) : Same a b path where
  editor := heditor
  schema := hschema
  loading := by rw [Cache.isLoading, Cache.isLoading, ha.idle, hb.idle]

theorem Lacks.mono (h : stage.Lacks region a entry) (hle : ∀ path, region path → region' path) :
    stage.Lacks region' a entry := { h with inside := hle _ h.inside }

theorem Opened.of_same {head : ModuleHead} (h : stage.Opened b head) (hsame : Same a b head.path) :
    stage.Opened a head := by
  obtain ⟨category, given, state, hrole, heditor, hfresh, hshown⟩ := h
  refine ⟨category, given, state, hrole, hsame.editor.trans heditor, hfresh, ?_⟩
  rwa [hsame.schema]

/-- **Of two parts that were mounted, the first was**: the second part neither changed its region nor
has blocks there. -/
theorem Served.left {later after before : Registry} {others : List (Nat × ModuleHead)}
    (h : stage.Served (fun path => region path ∨ region' path) (entries ++ others) later after)
    (hsame : Concord region after before)
    (hforeign : ∀ other ∈ others, ∀ path, region path → other.2.path.key ≠ path.key) :
    stage.Served region entries later before := by
  refine ⟨(List.forall_mem_append.mp h.opened).1, fun path hpath ⟨hin, hnone⟩ => ?_⟩
  refine (h.rest path hpath ⟨.inl hin, ?_⟩).trans (hsame path hpath hin)
  exact List.forall_mem_append.mpr ⟨hnone, fun other hother => hforeign other hother path hin⟩

/-- **Of two parts that were mounted, the second was**, also after the first was shown again. -/
theorem Served.right {later again before : Registry} {others : List (Nat × ModuleHead)}
    (h : stage.Served (fun path => region path ∨ region' path) (entries ++ others) later before)
    (hsame : Concord region' again later)
    (hinside : ∀ other ∈ others, Fitting other.2.path ∧ region' other.2.path)
    (hforeign : ∀ entry ∈ entries, ∀ path, region' path → entry.2.path.key ≠ path.key) :
    stage.Served region' others again before := by
  refine ⟨fun other hother => ?_, fun path hpath ⟨hin, hnone⟩ => ?_⟩
  · obtain ⟨hfitting, hin⟩ := hinside other hother
    exact ((List.forall_mem_append.mp h.opened).2 other hother).of_same (hsame _ hfitting hin)
  · refine (hsame path hpath hin).trans (h.rest path hpath ⟨.inr hin, ?_⟩)
    exact List.forall_mem_append.mpr ⟨fun entry hentry => hforeign entry hentry path hin, hnone⟩

end Stage

/-! ## Renderings -/

variable {α β : Type} {stage : Stage} {missing : α → List (Nat × ModuleHead)}
  {renderer : Renderer α} {registry : Registry}

/-- **A rendering that is confined to a region, and gets further as blocks are mounted.** -/
structure Advances (stage : Stage) (region : Path → Prop) (missing : α → List (Nat × ModuleHead))
    (renderer : Renderer α) (registry : Registry) : Prop where
  keeps : stage.Keeps (renderer.run registry).2
  frame : Concord (fun path => ¬ region path) (renderer.run registry).2 registry
  replay : ∀ {later : Registry}, stage.Keeps later → Concord region later (renderer.run registry).2 →
    (renderer.run later).1 = (renderer.run registry).1 ∧ Accord (renderer.run later).2 later
  lacks : ∀ entry ∈ missing (renderer.run registry).1,
    stage.Lacks region (renderer.run registry).2 entry
  apart : ((missing (renderer.run registry).1).map fun entry => entry.2.path.key).Nodup
  next : ∀ {later : Registry}, stage.Keeps later →
    stage.Served region (missing (renderer.run registry).1) later (renderer.run registry).2 →
      ∀ entry ∈ missing (renderer.run later).1,
        ∃ old ∈ missing (renderer.run registry).1, old.1 < entry.1

/-- A rendering that advances wherever the editor is there. -/
def Advancing (stage : Stage) (region : Path → Prop) (missing : α → List (Nat × ModuleHead))
    (renderer : Renderer α) : Prop :=
  ∀ registry, stage.Keeps registry → Advances stage region missing renderer registry

/-- **Where nothing lacks its schema**, it is enough that the same is shown again. -/
theorem advances_of_settled (hnone : missing (renderer.run registry).1 = [])
    (keeps : stage.Keeps (renderer.run registry).2)
    (frame : Concord (fun path => ¬ region path) (renderer.run registry).2 registry)
    (replay : ∀ {later : Registry}, stage.Keeps later →
      Concord region later (renderer.run registry).2 →
        (renderer.run later).1 = (renderer.run registry).1 ∧ Accord (renderer.run later).2 later) :
    Advances stage region missing renderer registry where
  keeps := keeps
  frame := frame
  replay := replay
  lacks := by
    rw [hnone]
    exact List.forall_mem_nil _
  apart := by
    rw [hnone]
    exact List.nodup_nil
  next {later} hlater hserved := by
    rw [hnone] at hserved
    have hrest := hserved.rest.mono fun path (hpath : region path) =>
      ⟨hpath, List.forall_mem_nil _⟩
    rw [(replay hlater hrest).1, hnone]
    exact List.forall_mem_nil _

/-- What shows no modules advances. -/
theorem advancing_pure (region : Path → Prop) {a : α} (hnone : missing a = []) :
    Advancing stage region missing (pure a) :=
  fun registry h => advances_of_settled hnone h (fun path _ _ => .refl registry path)
    fun {later} _ _ => ⟨rfl, .refl later⟩

theorem Advancing.mono (h : Advancing stage region missing renderer)
    (hle : ∀ path, region path → region' path) : Advancing stage region' missing renderer := by
  intro registry hregistry
  have h := h registry hregistry
  refine ⟨h.keeps, h.frame.mono fun path hpath hin => hpath (hle path hin),
    fun hlater hagree => h.replay hlater (hagree.mono hle),
    fun entry hentry => (h.lacks entry hentry).mono hle, h.apart, fun hlater hserved => ?_⟩
  exact h.next hlater ⟨hserved.opened, hserved.rest.mono fun path hpath => ⟨hle path hpath.1, hpath.2⟩⟩

/-- What is put around the widgets of a rendering. -/
theorem Advancing.map (h : Advancing stage region missing renderer) (f : α → β)
    {missing' : β → List (Nat × ModuleHead)} (hmissing : ∀ a, missing' (f a) = missing a) :
    Advancing stage region missing' (renderer >>= fun a => pure (f a)) := by
  intro registry hregistry
  have hrun : ∀ registry, (renderer >>= fun a => pure (f a)).run registry
      = (f (renderer.run registry).1, (renderer.run registry).2) := fun _ => rfl
  obtain ⟨keeps, frame, replay, lacks, apart, next⟩ := h registry hregistry
  constructor <;> simp only [hrun, hmissing]
  · exact keeps
  · exact frame
  · exact fun hlater hagree => ⟨congrArg f (replay hlater hagree).1, (replay hlater hagree).2⟩
  · exact lacks
  · exact apart
  · exact next

/-- **Two parts in regions apart from each other advance together**, one after the other. -/
theorem Advancing.andThen {γ : Type} {missing' : β → List (Nat × ModuleHead)}
    {missingBoth : γ → List (Nat × ModuleHead)} {rest : Renderer β}
    (hfirst : Advancing stage region missing renderer)
    (hrest : Advancing stage region' missing' rest) (hclosed : KeyClosed region)
    (hclosed' : KeyClosed region') (hapart : ∀ path, region path → ¬ region' path) (f : α → β → γ)
    (hmissing : ∀ a b, missingBoth (f a b) = missing a ++ missing' b) :
    Advancing stage (fun path => region path ∨ region' path) missingBoth
      (renderer >>= fun a => rest >>= fun b => pure (f a b)) := by
  intro registry hregistry
  have hrun : ∀ registry, (renderer >>= fun a => rest >>= fun b => pure (f a b)).run registry
      = (f (renderer.run registry).1 (rest.run (renderer.run registry).2).1,
        (rest.run (renderer.run registry).2).2) := fun _ => rfl
  have hnow := hfirst registry hregistry
  have hthen := hrest _ hnow.keeps
  -- What is filed for a block of the one part is not filed for a path of the other.
  have hforeign : ∀ entry ∈ missing (renderer.run registry).1, ∀ path, region' path →
      entry.2.path.key ≠ path.key :=
    fun entry hentry path hpath hkey =>
      hapart path (hclosed hkey (hnow.lacks entry hentry).inside) hpath
  have hforeign' : ∀ entry ∈ missing' (rest.run (renderer.run registry).2).1, ∀ path, region path →
      entry.2.path.key ≠ path.key :=
    fun entry hentry path hpath hkey =>
      hapart path hpath (hclosed' hkey (hthen.lacks entry hentry).inside)
  constructor <;> simp only [hrun, hmissing]
  · exact hthen.keeps
  · exact fun path hpath hout => (hthen.frame path hpath fun hin => hout (.inr hin)).trans
      (hnow.frame path hpath fun hin => hout (.inl hin))
  · intro later hlater hagree
    obtain ⟨hsame, hafter⟩ := hnow.replay hlater fun path hpath hin =>
      (hagree path hpath (.inl hin)).trans (hthen.frame path hpath (hapart path hin))
    obtain ⟨hsame', hafter'⟩ := hthen.replay (hfirst later hlater).keeps fun path hpath hin =>
      (hafter path hpath).trans (hagree path hpath (.inr hin))
    exact ⟨by rw [hsame, hsame'], hafter'.trans hafter⟩
  · intro entry hentry
    rcases List.mem_append.mp hentry with hin | hin
    · have hlacks := hnow.lacks entry hin
      have hsame := hthen.frame _ hlacks.fitting (hapart _ hlacks.inside)
      exact { hlacks with inside := .inl hlacks.inside, missing := hsame.schema.trans hlacks.missing }
    · exact (hthen.lacks entry hin).mono fun _ => .inr
  · rw [List.map_append]
    refine List.nodup_append.mpr ⟨hnow.apart, hthen.apart, ?_⟩
    rintro key hkey _ hkey' rfl
    obtain ⟨entry, hentry, rfl⟩ := List.mem_map.mp hkey
    obtain ⟨other, hother, hsame⟩ := List.mem_map.mp hkey'
    exact hforeign entry hentry _ (hthen.lacks other hother).inside hsame.symm
  · intro later hlater hserved entry hentry
    have hagain := hfirst later hlater
    rcases List.mem_append.mp hentry with hin | hin
    · obtain ⟨old, hold, hlt⟩ := hnow.next hlater (hserved.left
        (fun path hpath hin => hthen.frame path hpath (hapart path hin)) hforeign') entry hin
      exact ⟨old, List.mem_append_left _ hold, hlt⟩
    · obtain ⟨old, hold, hlt⟩ := hthen.next hagain.keeps (hserved.right
        (fun path hpath hin => hagain.frame path hpath fun hother => hapart path hother hin)
        (fun other hother => ⟨(hthen.lacks other hother).fitting, (hthen.lacks other hother).inside⟩)
        hforeign) entry hin
      exact ⟨old, List.mem_append_right _ hold, hlt⟩

/-- **Parts in regions apart from each other advance together.** -/
theorem advancing_mapM {render : α → Renderer β} {regions : α → Path → Prop}
    {missing : β → List (Nat × ModuleHead)} (items : List α)
    (hclosed : ∀ a ∈ items, KeyClosed (regions a))
    (hdisjoint : items.Pairwise fun a b => ∀ path, regions a path → ¬ regions b path)
    (hrender : ∀ a ∈ items, Advancing stage (regions a) missing (render a)) :
    Advancing stage (fun path => ∃ a ∈ items, regions a path) (fun bs => bs.flatMap missing)
      (items.mapM render) := by
  induction items with
  | nil => exact advancing_pure _ rfl
  | cons a items ih =>
    obtain ⟨hapart, hdisjoint⟩ := List.pairwise_cons.mp hdisjoint
    obtain ⟨hclosed, hclosedRest⟩ := List.forall_mem_cons.mp hclosed
    obtain ⟨hfirst, hrest⟩ := List.forall_mem_cons.mp hrender
    have hclosedItems : KeyClosed fun path => ∃ b ∈ items, regions b path := by
      rintro path other hkey ⟨b, hb, hpath⟩
      exact ⟨b, hb, hclosedRest b hb hkey hpath⟩
    have hnone : ∀ path, regions a path → ¬ ∃ b ∈ items, regions b path := by
      rintro path hpath ⟨b, hb, hbelow⟩
      exact hapart b hb path hpath hbelow
    rw [List.mapM_cons]
    refine (hfirst.andThen (ih hclosedRest hdisjoint hrest) hclosed hclosedItems hnone List.cons
      fun b bs => List.flatMap_cons).mono ?_
    rintro path (hpath | ⟨b, hb, hpath⟩)
    · exact ⟨a, List.mem_cons_self, hpath⟩
    · exact ⟨b, List.mem_cons_of_mem _ hb, hpath⟩

end SchemaForms.Render
