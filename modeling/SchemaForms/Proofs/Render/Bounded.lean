import SchemaForms.Proofs.Render.Parametric
import SchemaForms.Proofs.Render.Sound

/-!
# Proofs/Render/Bounded — how deep a rendering goes

Rendering counts how many modules it is inside: a field is shown as JSON text when the count is past
the limit, and counts one more for the fields of a module in it (`fieldAt_eq`).  The schema has no
say in that, nor has the path, which need not grow.  So there is one rendering that the recursion
describes, and its trees are not deeper than the limit allows.

The levels of a tree (`Widget.levels`) count the same modules from outside, since only a form has
widgets inside.  `Bounded` is what holds of each level; that a field keeps to it is by induction
on the levels left (`fits_field`).
-/

namespace SchemaForms

namespace Widget

/-- Whether a widget is a module. -/
def isModule : Widget → Bool
  | .form .. | .source .. | .pending .. => true
  | _ => false

/-- **No branch of a tree nests more than so many modules.** -/
def NestsWithin (bound : Nat) (widget : Widget) : Prop :=
  ∀ entry ∈ widget.levels 0, entry.2.isModule = true → entry.1 + 1 ≤ bound

/-- **A widget shows the value at its path as JSON text**, and nothing as null. -/
def IsRaw (document : Value) (widget : Widget) : Prop :=
  widget = .rawJson widget.path
    (Json.pretty ((Document.read? document widget.path).getD .null))

/-- **The forms with so many forms around them** show all their fields as JSON text. -/
def RawAt (document : Value) (level : Nat) (widget : Widget) : Prop :=
  ∀ head fields isOpen, (level, .form head fields isOpen) ∈ widget.levels 0 →
    ∀ field ∈ fields, field.2.IsRaw document

end Widget

namespace Render

variable {view : View} {bound depth room : Nat} {next : FieldRenderer} {widget : Widget}

/-! ## Trees within a bound -/

/-- A widget with a number of forms around it is within a bound: a module is no deeper, and a form
as deep as that has nothing but JSON text inside. -/
structure Bounded (document : Value) (bound : Nat) (entry : Nat × Widget) : Prop where
  level : entry.2.isModule = true → entry.1 ≤ bound
  raw : ∀ head fields isOpen, entry.2 = .form head fields isOpen → entry.1 = bound →
    ∀ field ∈ fields, field.2.IsRaw document

/-- A tree with a number of forms around it is within a bound. -/
def AllBounded (document : Value) (bound depth : Nat) (widget : Widget) : Prop :=
  ∀ entry ∈ widget.levels depth, Bounded document bound entry

variable {document : Value}

/-- What is no module is within any bound. -/
theorem bounded_of_not_isModule (h : widget.isModule = false) :
    Bounded document bound (depth, widget) where
  level hmodule := by simp [h] at hmodule
  raw head fields isOpen hform := by
    subst hform
    cases h

theorem allBounded_leaf (hlevels : widget.levels depth = [(depth, widget)])
    (h : widget.isModule = false) : AllBounded document bound depth widget := by
  simpa [AllBounded, hlevels] using bounded_of_not_isModule h

theorem allBounded_scalar (kind : Primitive) (options : Option (List String)) (path : Path)
    (value : Option Value) : AllBounded document bound depth (scalar kind options path value) := by
  cases kind <;> cases options <;> exact allBounded_leaf rfl rfl

theorem allBounded_list {items : List Widget}
    (hlevels : widget.levels depth = (depth, widget) :: Widget.levelsOfItems depth items)
    (h : widget.isModule = false) (hitems : ∀ item ∈ items, AllBounded document bound depth item) :
    AllBounded document bound depth widget := by
  simp only [AllBounded, hlevels, List.forall_mem_cons, Widget.mem_levelsOfItems]
  refine ⟨bounded_of_not_isModule h, ?_⟩
  rintro entry ⟨item, hitem, hentry⟩
  exact hitems item hitem entry hentry

/-- A module with nothing inside is within a bound that it does not pass. -/
theorem allBounded_bare (hlevels : widget.levels depth = [(depth, widget)])
    (hchildren : widget.children = []) (hle : depth ≤ bound) :
    AllBounded document bound depth widget := by
  simp only [AllBounded, hlevels, List.forall_mem_singleton]
  refine ⟨fun _ => hle, fun head fields isOpen hform _ => ?_⟩
  subst hform
  obtain rfl := List.map_eq_nil_iff.mp hchildren
  exact List.forall_mem_nil _

theorem allBounded_form {head : ModuleHead} {fields : List (String × Widget)} {isOpen : Bool}
    (hle : depth ≤ bound) (hraw : depth = bound → ∀ field ∈ fields, field.2.IsRaw document)
    (hfields : ∀ field ∈ fields, AllBounded document bound (depth + 1) field.2) :
    AllBounded document bound depth (.form head fields isOpen) := by
  simp only [AllBounded, Widget.levels, List.forall_mem_cons, Widget.mem_levelsOfFields]
  refine ⟨⟨fun _ => hle, ?_⟩, ?_⟩
  · rintro _ _ _ heq hdepth
    obtain ⟨-, rfl, -⟩ := Widget.form.inj heq
    exact hraw hdepth
  · rintro entry ⟨field, hfield, hentry⟩
    exact hfields field hfield entry hentry

theorem allBounded_filledSlot {path : Path} {category : Category}
    (h : AllBounded document bound depth widget) :
    AllBounded document bound depth (.filledSlot path category widget) := by
  simp only [AllBounded, Widget.levels, List.forall_mem_cons]
  exact ⟨bounded_of_not_isModule rfl, h⟩

/-! ## Renderings within a bound -/

/-- A rendering that always shows what has a property, whatever the registry. -/
abbrev Yields {α : Type} (Q : α → Prop) (renderer : Renderer α) : Prop :=
  Respects (fun a b => a = b) Q renderer

/-- Registries that are equal are the same to every rendering. -/
theorem parametric_eq (region : Path → Prop) : Parametric region fun a b => a = b where
  same := by
    rintro a _ path rfl -
    exact .refl a path
  drop := by
    rintro a _ path rfl -
    rfl
  seed := by
    rintro a _ path schema rfl -
    rfl

/-- What fields may show in a module with a number of forms around it. -/
def Fits (document : Value) (bound depth : Nat) (widget : Widget) : Prop :=
  AllBounded document bound (depth + 1) widget ∧ (depth = bound → widget.IsRaw document)

section

variable (hle : depth ≤ bound)
  (hnext : ∀ key fragment root path,
    Yields (Fits view.document bound depth) (next key fragment root path))

include hle hnext

/-- **A module is within the bound** if it is not too deep and its fields fit. -/
theorem bounded_module (request : ModuleRequest) :
    Yields (AllBounded view.document bound depth) (module view next request) := by
  have heq := parametric_eq fun _ => True
  unfold module
  refine respects_bind (respects_currentEditor heq trivial) fun state _ => ?_
  split
  · exact respects_pure (allBounded_bare rfl rfl hle)
  · refine respects_bind (respects_schemaFor heq trivial) fun schema _ => ?_
    split
    · refine respects_bind (respects_fields (fun _ _ => hnext _ _ _ _)
        (fun _ _ => hnext _ _ _ _) _) fun body hbody => respects_pure ?_
      exact allBounded_form hle (fun hdepth field hfield => (hbody field hfield).2 hdepth)
        fun field hfield => (hbody field hfield).1
    · rintro a _ rfl
      exact ⟨rfl, rfl, allBounded_bare rfl rfl hle⟩

theorem bounded_array (key : String) (items : Option Value) (root : Value) (path : Path) :
    Yields (AllBounded view.document bound depth) (array view next key items root path) := by
  have hmodules (subject : Subject) :
      Yields (fun items => ∀ item ∈ items, AllBounded view.document bound depth item)
        (itemModules view next key path subject) :=
    respects_itemModules (fun _ _ => bounded_module hle hnext _) key
  unfold array
  dsimp only
  split
  · exact respects_bind (hmodules _) fun modules h => respects_pure (allBounded_list rfl rfl h)
  · refine respects_pure (allBounded_list rfl rfl fun item hitem => ?_)
    obtain ⟨i, -, rfl⟩ := List.mem_map.mp hitem
    exact allBounded_scalar _ _ _ _
  · exact respects_bind (hmodules _) fun modules h => respects_pure (allBounded_list rfl rfl h)
  · exact respects_pure (allBounded_leaf rfl rfl)
  · exact respects_pure (allBounded_leaf rfl rfl)

/-- **The control for a fragment is within the bound** if the modules that it may open are. -/
theorem bounded_openField (key : String) (fragment root : Value) (path : Path) :
    Yields (AllBounded view.document bound depth) (openField view next key fragment root path) := by
  unfold openField
  dsimp only
  split
  · exact respects_pure (allBounded_leaf rfl rfl)
  · split
    · exact bounded_array hle hnext _ _ _ _
    · split
      · exact respects_pure (allBounded_leaf rfl rfl)
      · exact respects_bind (bounded_module hle hnext _) fun block h =>
          respects_pure (allBounded_filledSlot h)
    · exact bounded_module hle hnext _
    · exact respects_pure (allBounded_scalar _ _ _ _)
    · exact respects_pure (allBounded_leaf rfl rfl)

end

/-- **A field fits into a module** as deep as the levels left allow.  The induction is on these
levels: below a module at the bound there are none. -/
theorem fits_field (hroom : depth + room = bound) (key : String) (fragment root : Value)
    (path : Path) :
    Yields (Fits view.document bound depth) (field view room key fragment root path) := by
  induction room generalizing depth key fragment root path with
  | zero => exact respects_pure ⟨allBounded_leaf rfl rfl, fun _ => rfl⟩
  | succ room ih =>
    have hopen : Yields (AllBounded view.document bound (depth + 1))
        (openField view (field view room) key fragment root path) :=
      bounded_openField (by omega) (ih (by omega)) key fragment root path
    rintro a _ rfl
    exact ⟨rfl, rfl, (hopen a a rfl).good, fun hdepth => by omega⟩

/-! ## What the bound says of a tree -/

theorem AllBounded.nestsWithin (h : AllBounded document bound 0 widget) :
    widget.NestsWithin (bound + 1) :=
  fun entry hentry hmodule => Nat.succ_le_succ ((h entry hentry).level hmodule)

theorem AllBounded.rawAt (h : AllBounded document bound 0 widget) : widget.RawAt document bound :=
  fun head fields isOpen hform => (h _ hform).raw head fields isOpen rfl rfl

/-- **One round of the recursion**: past the limit a field is JSON text, up to it its modules have
their fields rendered by the next round. -/
def guarded (view : View) (maxDepth depth : Nat) (next : FieldRenderer) : FieldRenderer :=
  if maxDepth < depth then
    fun _ _ _ path =>
      pure (.rawJson path (Json.pretty ((Document.read? view.document path).getD .null)))
  else openField view next

end Render

namespace Session

open Render

/-- **Each round asks for the next one**, with a count that is one higher. -/
theorem fieldAt_eq (session : Session) (depth : Nat) :
    session.fieldAt depth = guarded session.view session.config.maxRenderDepth depth
      (session.fieldAt (depth + 1)) := by
  unfold fieldAt guarded
  split
  · have hroom : roomAt session.config.maxRenderDepth depth = 0 := by simp [roomAt]; omega
    rw [hroom]
    rfl
  · have hroom : roomAt session.config.maxRenderDepth depth
        = roomAt session.config.maxRenderDepth (depth + 1) + 1 := by simp [roomAt]; omega
    rw [hroom]
    rfl

/-- **The count runs out**: the rounds have no say in what is rendered past the limit, so they are
determined by their recursion.  The induction is on how far the limit is. -/
theorem eq_fieldAt_of_guarded (session : Session) {rounds : Nat → FieldRenderer}
    (h : ∀ depth, rounds depth = guarded session.view session.config.maxRenderDepth depth
      (rounds (depth + 1))) (depth : Nat) : rounds depth = session.fieldAt depth := by
  induction hleft : session.config.maxRenderDepth + 1 - depth generalizing depth with
  | zero =>
    have hpast : session.config.maxRenderDepth < depth := by omega
    rw [h, fieldAt_eq, guarded, guarded, if_pos hpast, if_pos hpast]
  | succ left ih => rw [h, fieldAt_eq, ih (depth + 1) (by omega)]

/-- **Rendering ends, and within the limit.**  There is exactly one rendering that the recursion
describes.  An editor shows a tree in which no branch nests more modules than two over the limit, and
a field one in which none nests more than one over it; the modules that were asked for past the limit,
in such a tree or anywhere, show the values at the paths of their fields as JSON text. -/
theorem renderings_are_bounded (session : Session) :
    let limit := session.config.maxRenderDepth
    let document := session.store.document
    (∀ rounds : Nat → FieldRenderer,
      (∀ depth, rounds depth = guarded session.view limit depth (rounds (depth + 1))) ↔
        rounds = session.fieldAt) ∧
    (∀ path, (session.render path).1.NestsWithin (limit + 2) ∧
      (session.render path).1.RawAt document (limit + 1)) ∧
    (∀ key fragment root path registry,
      let tree := ((session.fieldAt 0 key fragment root path).run registry).1
      tree.NestsWithin (limit + 1) ∧ tree.RawAt document limit) ∧
    (∀ request registry,
      ((module session.view (session.fieldAt (limit + 1)) request).run registry).1.RawAt
        document 0) := by
  intro limit document
  refine ⟨fun rounds => ⟨fun h => funext (session.eq_fieldAt_of_guarded h), ?_⟩, ?_, ?_, ?_⟩
  · rintro rfl depth
    exact session.fieldAt_eq depth
  · intro path
    have hbounded : AllBounded document (limit + 1) 0 (session.render path).1 :=
      (bounded_module (Nat.zero_le _) (fits_field (Nat.zero_add _)) (session.moduleOf path)
        session.registry _ rfl).good
    exact ⟨hbounded.nestsWithin, hbounded.rawAt⟩
  · intro key fragment root path registry tree
    have hbounded : AllBounded document limit 0 tree :=
      (bounded_openField (Nat.zero_le _) (fits_field (Nat.zero_add _)) key fragment root path
        registry _ rfl).good
    exact ⟨hbounded.nestsWithin, hbounded.rawAt⟩
  · intro request registry
    have hroom : session.fieldAt (limit + 1) = field session.view 0 := by
      simp [fieldAt, roomAt, limit]
    rw [hroom]
    exact (bounded_module (Nat.le_refl 0) (fits_field rfl) request registry _ rfl).good.rawAt

/-- The schema of an object that holds another of its kind. -/
def cyclicSchema : Value :=
  .obj [("type", .str "object"), ("properties", .obj [("inner", .obj [("$ref", .str "#")])])]

/-- A session with the limit zero over three such objects. -/
def cyclicSession : Session :=
  (ofDocument { Config.default with maxRenderDepth := 0 }
    (.obj [("root", .obj [("inner", .obj [("inner", .obj [("inner", .null)])])])])).setEditor
      Path.root { EditorState.initial with descriptor := some (.inline cyclicSchema) }

/-- A schema that refers to itself, with the limit zero: the tree does have two modules on a branch,
and the field of the second shows an object as JSON text. -/
theorem renderings_are_bounded_cyclic :
    let tree := (cyclicSession.render Path.root).1
    tree.NestsWithin 2 ∧ ∃ head isOpen shown,
      (1, .form head [("inner", shown)] isOpen) ∈ tree.levels 0 ∧
        shown.path = (Path.root.child "inner").child "inner" ∧
        shown = .rawJson shown.path "\x7b\n  \"inner\": null\n\x7d" := by
  intro tree
  obtain ⟨-, hrender, -⟩ := renderings_are_bounded cyclicSession
  obtain ⟨hnests, hraw⟩ := hrender Path.root
  refine ⟨hnests, _, _, _, List.mem_cons_of_mem _ List.mem_cons_self, rfl, ?_⟩
  exact hraw _ _ _ (List.mem_cons_of_mem _ List.mem_cons_self) ("inner", _)
    (List.mem_singleton_self _)

end Session

end SchemaForms
