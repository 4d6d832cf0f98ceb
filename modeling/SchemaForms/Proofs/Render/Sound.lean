import SchemaForms.Proofs.Session.Consistent

/-!
# Proofs/Render/Sound — renderings that are confined

A rendering is `Sound` in a region if it changes the registry there only, shows the same again on
every registry that agrees with the outcome in the region, and shows nothing but widgets that are
`Good`.  Parts in regions apart from each other do not disturb each other, so that rendering them
one after the other is sound in the regions taken together (`sound_mapM`).
-/

namespace SchemaForms.Widget

mutual

/-- A widget and all widgets inside it, depth first, each with the number of forms around it. -/
def levels (depth : Nat) : Widget → List (Nat × Widget)
  | .blockList path category items =>
    (depth, .blockList path category items) :: levelsOfItems depth items
  | .primitiveList path kind items =>
    (depth, .primitiveList path kind items) :: levelsOfItems depth items
  | .objectList path template items =>
    (depth, .objectList path template items) :: levelsOfItems depth items
  | .filledSlot path category block => (depth, .filledSlot path category block) :: levels depth block
  | .form head fields open_ => (depth, .form head fields open_) :: levelsOfFields (depth + 1) fields
  | leaf => [(depth, leaf)]

/-- All widgets of a list with the number of forms around them. -/
def levelsOfItems (depth : Nat) : List Widget → List (Nat × Widget)
  | [] => []
  | item :: items => levels depth item ++ levelsOfItems depth items

/-- All widgets of a list of fields with the number of forms around them. -/
def levelsOfFields (depth : Nat) : List (String × Widget) → List (Nat × Widget)
  | [] => []
  | (_, widget) :: fields => levels depth widget ++ levelsOfFields depth fields

end

theorem mem_levelsOfItems {depth : Nat} {entry : Nat × Widget} {items : List Widget} :
    entry ∈ levelsOfItems depth items ↔ ∃ item ∈ items, entry ∈ levels depth item := by
  induction items with
  | nil => simp [levelsOfItems]
  | cons item items ih => simp [levelsOfItems, ih]

theorem mem_levelsOfFields {depth : Nat} {entry : Nat × Widget} {fields : List (String × Widget)} :
    entry ∈ levelsOfFields depth fields ↔ ∃ field ∈ fields, entry ∈ levels depth field.2 := by
  induction fields with
  | nil => simp [levelsOfFields]
  | cons field fields ih => simp [levelsOfFields, ih]

mutual

/-- The levels are those of the nodes. -/
theorem map_levels (depth : Nat) (widget : Widget) :
    (widget.levels depth).map (·.2) = widget.nodes := by
  cases widget with
  | blockList path category items => simp [levels, nodes, map_levelsOfItems depth items]
  | primitiveList path kind items => simp [levels, nodes, map_levelsOfItems depth items]
  | objectList path template items => simp [levels, nodes, map_levelsOfItems depth items]
  | filledSlot path category block => simp [levels, nodes, map_levels depth block]
  | form head fields open_ => simp [levels, nodes, map_levelsOfFields (depth + 1) fields]
  | _ => rfl

theorem map_levelsOfItems (depth : Nat) (items : List Widget) :
    (levelsOfItems depth items).map (·.2) = nodesOfItems items := by
  cases items with
  | nil => rfl
  | cons item items =>
    simp [levelsOfItems, nodesOfItems, map_levels depth item, map_levelsOfItems depth items]

theorem map_levelsOfFields (depth : Nat) (fields : List (String × Widget)) :
    (levelsOfFields depth fields).map (·.2) = nodesOfFields fields := by
  cases fields with
  | nil => rfl
  | cons field fields =>
    simp [levelsOfFields, nodesOfFields, map_levels depth field.2, map_levelsOfFields depth fields]

end

end SchemaForms.Widget

namespace SchemaForms.Render

open Session (Consistent Hosted)

/-- What a rendering and its schemas depend on: the document, the levels there are, and the answers
of the catalog. -/
structure Setting where
  view : View
  maxRenderDepth : Nat
  answers : String → Except FetchError Catalog.BlockSchema

namespace Setting

/-- The rendering of the fields of a module with a number of forms around it. -/
def fieldAt (setting : Setting) (depth : Nat) : FieldRenderer :=
  field setting.view (roomAt setting.maxRenderDepth depth)

/-- **A property of the rendering of fields at every depth**: it holds where no level is left, and of
a control whose fields are rendered with it one form deeper.  The induction is on the levels left. -/
theorem fieldAt_induction {setting : Setting} {motive : Nat → FieldRenderer → Prop}
    (bottom : ∀ depth, motive depth (field setting.view 0))
    (opened : ∀ depth, motive (depth + 1) (setting.fieldAt (depth + 1)) →
      motive depth (openField setting.view (setting.fieldAt (depth + 1)))) (depth : Nat) :
    motive depth (setting.fieldAt depth) := by
  induction hroom : roomAt setting.maxRenderDepth depth generalizing depth with
  | zero =>
    rw [fieldAt, hroom]
    exact bottom depth
  | succ room ih =>
    have hroomNext : roomAt setting.maxRenderDepth (depth + 1) = room := by
      unfold roomAt at hroom ⊢
      omega
    have hfield : setting.fieldAt depth = openField setting.view (setting.fieldAt (depth + 1)) := by
      rw [fieldAt, fieldAt, hroom, hroomNext, field]
    rw [hfield]
    exact opened depth (ih (depth + 1) hroomNext)

/-- Every schema that is filed belongs where it is. -/
def Keeps (setting : Setting) (registry : Registry) : Prop :=
  Consistent setting.view.maxRefDepth setting.answers registry

/-- **The body of a block is the one that the schema of its name calls for.** -/
def Shows (setting : Setting) (depth : Nat) (path : Path) (category : Category) (name : String)
    (body : List (String × Widget) × Bool) (registry : Registry) : Prop :=
  ∃ found, setting.answers name = .ok found ∧
    (fields setting.view (setting.fieldAt depth) found.schema path
      (hiddenKeys (.block category none))).run registry = (body, registry)

/-- A module that lacks its schema is a block at its place. -/
structure Lacks (setting : Setting) (registry : Registry) (head : ModuleHead) : Prop where
  rooted : Path.Rooted head.path
  missing : registry.cache.peek? head.path = none
  block : ∃ category given, head.role = .block category given ∧
    Hosted setting.view.maxRefDepth registry head.path (.block category)

/-- **A widget that is as it should be**, with a number of forms around it. -/
def Good (setting : Setting) (region : Path → Prop) (registry : Registry) (depth : Nat) :
    Widget → Prop
  | .form head fields isOpen =>
    region head.path ∧ ∀ category given name, head.role = .block category given →
      liveName? setting.view head.path category = some name →
        ∀ later, Agree (fun path => head.path <+: path) later registry →
          setting.Shows depth head.path category name (fields, isOpen) later
  | .pending head _ => region head.path ∧ setting.Lacks registry head
  | _ => True

/-- All widgets in one are as they should be. -/
def AllGood (setting : Setting) (region : Path → Prop) (registry : Registry) (depth : Nat)
    (widget : Widget) : Prop :=
  ∀ entry ∈ widget.levels depth, setting.Good region registry entry.1 entry.2

variable {setting : Setting} {region apart : Path → Prop} {before after : Registry} {depth : Nat}
  {widget : Widget}

theorem Good.mono (h : setting.Good region before depth widget)
    (hle : ∀ path, region path → apart path) : setting.Good apart before depth widget := by
  cases widget with
  | form head fields isOpen => exact ⟨hle _ h.1, h.2⟩
  | pending head loading => exact ⟨hle _ h.1, h.2⟩
  | _ => trivial

/-- **What happens in a region apart leaves a widget as it should be.** -/
theorem Good.later (h : setting.Good region before depth widget) (hregion : Downward region)
    (hapart : Downward apart) (hdisjoint : ∀ path, region path → ¬ apart path)
    (hframe : ∀ path, Path.Rooted path → ¬ apart path → Same after before path) :
    setting.Good region after depth widget := by
  cases widget with
  | form head fields isOpen =>
    refine ⟨h.1, fun category given name hrole hname later hlater => ?_⟩
    refine h.2 category given name hrole hname later (hlater.trans fun path hroot hpath => ?_)
    exact hframe path hroot (hdisjoint path (hregion hpath h.1))
  | pending head loading =>
    obtain ⟨hhead, hlacks⟩ := h
    obtain ⟨category, given, hrole, hhosted⟩ := hlacks.block
    have hsame := hframe head.path hlacks.rooted (hdisjoint _ hhead)
    refine ⟨hhead, hlacks.rooted, hsame.schema.trans hlacks.missing, category, given, hrole, ?_⟩
    refine hhosted.of_same fun base hle hbase host hhost => ?_
    have hout : ¬ apart base := fun hbelow => hdisjoint _ hhead (hapart hle hbelow)
    exact (hframe base hbase hout).schema.trans hhost
  | _ => trivial

end Setting

/-! ## Sound renderings -/

variable {α β : Type}

/-- **A rendering that is confined to a region**, and whose widgets are as they should be. -/
structure Sound (setting : Setting) (depth : Nat) (region : Path → Prop) (shown : α → List Widget)
    (renderer : Renderer α) (registry : Registry) : Prop where
  keeps : setting.Keeps (renderer.run registry).2
  frame : ∀ path, Path.Rooted path → ¬ region path → Same (renderer.run registry).2 registry path
  replay : ∀ later, Agree region later (renderer.run registry).2 →
    renderer.run later = ((renderer.run registry).1, later)
  good : ∀ widget ∈ shown (renderer.run registry).1,
    setting.AllGood region (renderer.run registry).2 depth widget

variable {setting : Setting} {depth : Nat} {region region' : Path → Prop} {shown : α → List Widget}
  {renderer : Renderer α} {registry : Registry}

/-- What shows no modules is sound. -/
theorem sound_pure (region : Path → Prop) (h : setting.Keeps registry) {a : α}
    (hgood : ∀ widget ∈ shown a, setting.AllGood region registry depth widget) :
    Sound setting depth region shown (pure a) registry where
  keeps := h
  frame path _ _ := .refl registry path
  replay _ _ := rfl
  good := hgood

theorem Sound.mono (h : Sound setting depth region shown renderer registry)
    (hle : ∀ path, region path → region' path) :
    Sound setting depth region' shown renderer registry where
  keeps := h.keeps
  frame path hroot hpath := h.frame path hroot fun hin => hpath (hle path hin)
  replay later hlater := h.replay later (hlater.mono hle)
  good widget hwidget entry hentry := (h.good widget hwidget entry hentry).mono hle

/-- What is put around the widgets of a sound rendering keeps it sound. -/
theorem Sound.map (h : Sound setting depth region shown renderer registry) (f : α → β)
    {shown' : β → List Widget}
    (hgood : ∀ a, (∀ widget ∈ shown a,
        setting.AllGood region (renderer.run registry).2 depth widget) →
      ∀ widget ∈ shown' (f a), setting.AllGood region (renderer.run registry).2 depth widget) :
    Sound setting depth region shown' (renderer >>= fun a => pure (f a)) registry where
  keeps := h.keeps
  frame := h.frame
  replay later hlater :=
    congrArg (fun result : α × Registry => (f result.1, result.2)) (h.replay later hlater)
  good := hgood _ h.good

/-- **Two parts in regions apart from each other are sound together**, one after the other. -/
theorem Sound.andThen {γ : Type} {shown' : β → List Widget} {shownBoth : γ → List Widget}
    {rest : Renderer β} (hfirst : Sound setting depth region shown renderer registry)
    (hrest : Sound setting depth region' shown' rest (renderer.run registry).2)
    (hdown : Downward region) (hdown' : Downward region')
    (hapart : ∀ path, region path → ¬ region' path) (f : α → β → γ)
    (hshown : ∀ a b, ∀ widget ∈ shownBoth (f a b), widget ∈ shown a ∨ widget ∈ shown' b) :
    Sound setting depth (fun path => region path ∨ region' path) shownBoth
      (renderer >>= fun a => rest >>= fun b => pure (f a b)) registry where
  keeps := hrest.keeps
  frame path hroot hpath :=
    (hrest.frame path hroot fun hin => hpath (.inr hin)).trans
      (hfirst.frame path hroot fun hin => hpath (.inl hin))
  replay later hlater := by
    have hlaterFirst : Agree region later (renderer.run registry).2 := by
      intro path hroot hpath
      exact (hlater path hroot (.inl hpath)).trans (hrest.frame path hroot (hapart path hpath))
    have hlaterRest : Agree region' later (rest.run (renderer.run registry).2).2 :=
      fun path hroot hpath => hlater path hroot (.inr hpath)
    rw [StateT.run_bind, hfirst.replay later hlaterFirst]
    exact congrArg (fun result : β × Registry => (f (renderer.run registry).1 result.1, result.2))
      (hrest.replay later hlaterRest)
  good widget hwidget entry hentry := by
    rcases hshown _ _ widget hwidget with hin | hin
    · have hgood := hfirst.good widget hin entry hentry
      exact (hgood.later hdown hdown' hapart hrest.frame).mono fun path hpath => .inl hpath
    · exact (hrest.good widget hin entry hentry).mono fun path hpath => .inr hpath

/-- **Parts in regions apart from each other are sound together.**  They are rendered for a module
whose schema stays filed meanwhile. -/
theorem sound_mapM {render : α → Renderer β} {regions : α → Path → Prop} {shown : β → List Widget}
    {base : Path} {host : Value} (hbase : Path.Rooted base) (items : List α)
    (hdown : ∀ a ∈ items, Downward (regions a)) (hout : ∀ a ∈ items, ¬ regions a base)
    (hdisjoint : items.Pairwise fun a b => ∀ path, regions a path → ¬ regions b path)
    (hrender : ∀ a ∈ items, ∀ registry, setting.Keeps registry →
      registry.cache.peek? base = some host →
        Sound setting depth (regions a) shown (render a) registry)
    (registry : Registry) (h : setting.Keeps registry)
    (hhost : registry.cache.peek? base = some host) :
    Sound setting depth (fun path => ∃ a ∈ items, regions a path) (fun bs => bs.flatMap shown)
      (items.mapM render) registry := by
  induction items generalizing registry with
  | nil => exact sound_pure _ h fun widget hwidget => absurd hwidget List.not_mem_nil
  | cons a items ih =>
    obtain ⟨hapart, hdisjoint⟩ := List.pairwise_cons.mp hdisjoint
    have hfirst := hrender a List.mem_cons_self registry h hhost
    have hbetween := (hfirst.frame base hbase (hout a List.mem_cons_self)).schema.trans hhost
    have hrest := ih (fun b hb => hdown b (List.mem_cons_of_mem _ hb))
      (fun b hb => hout b (List.mem_cons_of_mem _ hb)) hdisjoint
      (fun b hb => hrender b (List.mem_cons_of_mem _ hb)) _ hfirst.keeps hbetween
    have hrestDown : Downward fun path => ∃ b ∈ items, regions b path := by
      rintro path below hle ⟨b, hb, hpath⟩
      exact ⟨b, hb, hdown b (List.mem_cons_of_mem _ hb) hle hpath⟩
    have hnone : ∀ path, regions a path → ¬ ∃ b ∈ items, regions b path := by
      rintro path hpath ⟨b, hb, hbelow⟩
      exact hapart b hb path hpath hbelow
    have hshown : ∀ b bs, ∀ widget ∈ (b :: bs).flatMap shown,
        widget ∈ shown b ∨ widget ∈ bs.flatMap shown := by
      intro b bs widget hwidget
      rw [List.flatMap_cons] at hwidget
      exact List.mem_append.mp hwidget
    rw [List.mapM_cons]
    refine
      (hfirst.andThen hrest (hdown a List.mem_cons_self) hrestDown hnone List.cons hshown).mono ?_
    rintro path (hpath | ⟨b, hb, hpath⟩)
    · exact ⟨a, List.mem_cons_self, hpath⟩
    · exact ⟨b, List.mem_cons_of_mem _ hb, hpath⟩

end SchemaForms.Render
