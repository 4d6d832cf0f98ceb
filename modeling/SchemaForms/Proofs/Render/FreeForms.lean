import SchemaForms.Proofs.Render.Bounded
import SchemaForms.Proofs.Render.Nesting
import SchemaForms.Proofs.Store.Writing

/-!
# Proofs/Render/FreeForms — an object of any keys is shown as it is

An editor that was never mounted shows an object by a schema that takes any keys, and each value in it
by the schema that the value itself calls for.  The tree is a mirror of the value (`mirror`): objects
become forms, other values leaves, and at the depth bound what is left becomes JSON text.  All that is
filed on the way is the same schema again, so that it does not matter what the paths are written as
(`OnlyFreeForms`).  Hence nothing in the value is hidden or shown twice
(`free_forms_hide_nothing`).
-/

namespace SchemaForms

open Schema (Node ObjectShape)
open Value (Regular)

/-! ## Members -/

/-- The parts of a table that concern one key are those of its entry. -/
theorem Table.flatMap_of_get? {α β : Type} {table : List (String × α)} {key : String} {value : α}
    (hdistinct : Distinct table) (hget : get? table key = some value)
    {parts : String × α → List β} (hothers : ∀ entry, entry.1 ≠ key → parts entry = []) :
    table.flatMap parts = parts (key, value) := by
  induction table with
  | nil => exact absurd hget nofun
  | cons entry table ih =>
    obtain ⟨first, here⟩ := entry
    obtain ⟨hnew, hrest⟩ := List.nodup_cons.mp hdistinct
    rw [List.flatMap_cons]
    rw [get?] at hget
    split at hget
    · rename_i hkey
      obtain rfl := hkey
      obtain rfl := Option.some.inj hget
      rw [List.flatMap_eq_nil_iff.mpr, List.append_nil]
      intro entry hentry
      refine hothers entry fun hkey => hnew ?_
      exact List.mem_map.mpr ⟨entry, hentry, hkey⟩
    · rename_i hkey
      rw [hothers _ hkey, List.nil_append, ih hrest hget]

/-- The member of an object is at the path of its key. -/
theorem Document.read?_child_of_mem {document : Value} {path : Path} {members : List (String × Value)}
    (hread : read? document path = some (.obj members)) (hdistinct : Table.Distinct members)
    {member : String × Value} (hmember : member ∈ members) :
    read? document (path.child member.1) = some member.2 := by
  rw [Path.child, read?_append, hread]
  exact (Option.bind_some ..).trans (congrArg (Option.bind · _) (hdistinct.get?_eq hmember))

/-! ## Leaves -/

namespace Widget

/-- Whether a widget edits a value and holds no other widgets. -/
def isLeaf : Widget → Bool
  | .rawJson .. | .emptySlot .. | .checkbox .. | .number .. | .select .. | .text .. => true
  | _ => false

/-- The leaves of a tree, depth first. -/
def leaves (widget : Widget) : List Widget := widget.nodes.filter isLeaf

/-- The leaves that show the value at a path: those at the path, and those at a path above. -/
def showing (widget : Widget) (path : Path) : List Widget :=
  widget.leaves.filter fun leaf => Path.startsWith path leaf.path

theorem nodes_of_isLeaf {leaf : Widget} (h : leaf.isLeaf = true) : leaf.nodes = [leaf] := by
  cases leaf with
  | blockList | primitiveList | objectList | filledSlot | form | source | pending =>
    exact absurd h Bool.false_ne_true
  | _ => rfl

/-- A leaf shows what is at its path or below. -/
theorem showing_of_isLeaf {leaf : Widget} {path : Path} (h : leaf.isLeaf = true)
    (hpath : leaf.path <+: path) : leaf.showing path = [leaf] := by
  simp [showing, leaves, nodes_of_isLeaf h, h, Path.startsWith_iff.mpr hpath]

/-- The leaves of a form are those of its fields. -/
theorem showing_form (head : ModuleHead) (fields : List (String × Widget)) (isOpen : Bool)
    (path : Path) : (form head fields isOpen).showing path
      = fields.flatMap fun field => field.2.showing path := by
  rw [showing, leaves, nodes, nodesOfFields_eq_flatMap, List.filter_cons_of_neg Bool.false_ne_true,
    List.filter_flatMap, List.filter_flatMap]
  rfl

/-- A widget with all its leaves aside from a path shows nothing of the value there. -/
theorem showing_eq_nil {widget : Widget} {path : Path}
    (h : widget.Every fun node => ¬ node.path <+: path) : widget.showing path = [] := by
  rw [showing, List.filter_eq_nil_iff]
  intro leaf hleaf hshows
  exact h leaf (List.mem_filter.mp hleaf).1 (Path.startsWith_iff.mp hshows)

end Widget

namespace Render

/-! ## The mirror of a value -/

/-- The control that a value calls for by itself. -/
def control (path : Path) : Value → Widget
  | .null => .text path "" none
  | .str s => .text path s none
  | .bool checked => .checkbox path checked
  | .num (.int n) =>
    .number path (some (Binary64.withSign (decide (n < 0)) (Binary64.ofNat n.natAbs))) true
  | .num (.float bits) => .number path (some bits) false
  | value => .rawJson path (Json.pretty value)

/-- **The tree that mirrors a value**, with a number of levels left. -/
def mirror : Nat → Option String → Path → Value → Widget
  | 0, _, path, value => .rawJson path (Json.pretty value)
  | room + 1, title, path, .obj members =>
    .form ⟨path, title, .object, false, none⟩ (members.map fun member =>
      (member.1, mirror room (some member.1) (path.child member.1) member.2)) true
  | _ + 1, _, path, value => control path value

theorem path_control (path : Path) (value : Value) : (control path value).path = path := by
  cases value with
  | num n => cases n <;> rfl
  | _ => rfl

theorem isLeaf_control (path : Path) (value : Value) : (control path value).isLeaf = true := by
  cases value with
  | num n => cases n <;> rfl
  | _ => rfl

/-- **Every widget of a mirror is at its path or below.** -/
theorem below_mirror (room : Nat) (title : Option String) (path : Path) (value : Value) :
    (mirror room title path value).Every fun node => path <+: node.path := by
  fun_induction mirror room title path value with
  | case1 title path value => exact Widget.every_leaf rfl (List.prefix_refl path)
  | case2 room title path members ih =>
    refine Widget.every_form.mpr ⟨List.prefix_refl path, fun field hfield => ?_⟩
    obtain ⟨member, -, rfl⟩ := List.mem_map.mp hfield
    exact fun node hnode => (List.prefix_append _ _).trans (ih member node hnode)
  | case3 room title path value =>
    refine Widget.every_leaf (Widget.nodes_of_isLeaf (isLeaf_control path value)) ?_
    exact (path_control path value).symm ▸ List.prefix_refl path

variable {found : Value} {keys : List String}

/-- **Each value in a mirror that is no object is shown by exactly one leaf**: the one at its path, or
at as much of the path as there are levels. -/
theorem showing_mirror (room : Nat) (title : Option String) (path : Path) {value : Value}
    (hregular : Regular value) (hread : Document.read? value (keys.map .key) = some found)
    (hfound : found.asMembers? = none) :
    ∃ leaf, (mirror room title path value).showing (path ++ keys.map .key) = [leaf] ∧
      leaf.path = path ++ (keys.take room).map .key := by
  fun_induction mirror room title path value generalizing keys with
  | case1 title path value =>
    exact ⟨_, Widget.showing_of_isLeaf rfl (List.prefix_append _ _), (List.append_nil path).symm⟩
  | case2 room title path members ih =>
    obtain ⟨hdistinct, hmembers⟩ := Value.regular_obj.mp hregular
    cases keys with
    | nil =>
      cases hread
      cases hfound
    | cons key keys =>
      obtain ⟨child, hchild, hrest⟩ := Option.bind_eq_some_iff.mp hread
      obtain ⟨leaf, hleaf, hpath⟩ := ih (key, child)
        (hmembers _ (Table.mem_of_get? hchild)) hrest
      have hbelow : path.child key ++ keys.map .key = path ++ (key :: keys).map .key := by
        simp [Path.child]
      refine ⟨leaf, ?_, by simpa [Path.child] using hpath⟩
      rw [Widget.showing_form, List.flatMap_map, Table.flatMap_of_get? hdistinct hchild, ← hbelow,
        hleaf]
      -- what is inside the field of another key is not on the way to the value
      intro entry hne
      refine Widget.showing_eq_nil fun node hnode hshows => hne ?_
      have hle : path.child entry.1 <+: path.child key ++ keys.map .key :=
        (below_mirror room (some entry.1) (path.child entry.1) entry.2 node hnode).trans
          (hbelow ▸ hshows)
      simpa [Path.child, List.prefix_append_right_inj] using hle
  | case3 room title path value hvalue =>
    cases keys with
    | nil =>
      refine ⟨_, Widget.showing_of_isLeaf (isLeaf_control path value) ?_, ?_⟩
      · rw [path_control]
        exact List.prefix_append _ _
      · exact (path_control path value).trans (List.append_nil path).symm
    | cons key keys =>
      obtain ⟨child, hchild, -⟩ := Option.bind_eq_some_iff.mp hread
      cases value with
      | obj members => exact (hvalue members rfl).elim
      | _ => cases hchild

/-- **What a widget of a mirror shows** of the value at its path in a document: a form has a field for
each key, at the path of the key; a leaf is the control of a value that is no object, or, where the
path is as long as the levels reach, any value as JSON text. -/
inductive Mirrors (document : Value) (reach : Nat) : Widget → Prop where
  | form {head : ModuleHead} {members : List (String × Value)} {fields : List (String × Widget)}
      (hread : Document.read? document head.path = some (.obj members))
      (hdistinct : Table.Distinct members)
      (hfields : fields.map (fun field => (field.1, field.2.path))
        = members.map fun member => (member.1, head.path.child member.1)) :
      Mirrors document reach (.form head fields true)
  | control {path : Path} {value : Value} (hread : Document.read? document path = some value)
      (hvalue : value.asMembers? = none) : Mirrors document reach (control path value)
  | rest {path : Path} {value : Value} (hread : Document.read? document path = some value)
      (hreach : path.length = reach) : Mirrors document reach (.rawJson path (Json.pretty value))

theorem path_mirror (room : Nat) (title : Option String) (path : Path) (value : Value) :
    (mirror room title path value).path = path := by
  fun_cases mirror room title path value with
  | case1 | case2 => rfl
  | case3 => exact path_control path value

/-- **Every widget of a mirror shows what the document holds at its path.** -/
theorem every_mirror {document : Value} (room : Nat) (title : Option String) (path : Path)
    {value : Value} (hregular : Regular value) (hread : Document.read? document path = some value) :
    (mirror room title path value).Every (Mirrors document (path.length + room)) := by
  fun_induction mirror room title path value with
  | case1 title path value => exact Widget.every_leaf rfl (.rest hread rfl)
  | case2 room title path members ih =>
    obtain ⟨hdistinct, hmembers⟩ := Value.regular_obj.mp hregular
    refine Widget.every_form.mpr ⟨.form hread hdistinct ?_, fun field hfield => ?_⟩
    · rw [List.map_map]
      exact List.map_congr_left fun member _ => congrArg (member.1, ·) (path_mirror ..)
    · obtain ⟨member, hmember, rfl⟩ := List.mem_map.mp hfield
      have hlevel : (path.child member.1).length + room = path.length + (room + 1) := by
        simp only [Path.child, List.length_append, List.length_singleton]
        omega
      exact hlevel ▸ ih member (hmembers member hmember) (Document.read?_child_of_mem hread hdistinct hmember)
  | case3 room title path value hvalue =>
    refine Widget.every_leaf (Widget.nodes_of_isLeaf (isLeaf_control path value)) (.control hread ?_)
    cases value with
    | obj members => exact (hvalue members rfl).elim
    | _ => rfl

/-! ## Rendering the mirror -/

variable {view : View} {registry : Registry} {room : Nat}

/-- **Only free forms are filed**, and no editors. -/
structure OnlyFreeForms (registry : Registry) : Prop where
  editors : registry.editors = []
  entries : ∀ entry ∈ registry.cache.entries, entry.2 = Schema.freeForm

theorem onlyFreeForms_empty (policy : CachePolicy) : OnlyFreeForms (.empty policy) :=
  ⟨rfl, fun _ hentry => absurd hentry List.not_mem_nil⟩

/-- **Whatever schema is found is the free form**, under whose path it may have been filed. -/
theorem OnlyFreeForms.getD_peek? (h : OnlyFreeForms registry) (path : Path) :
    (registry.cache.peek? path).getD Schema.freeForm = Schema.freeForm := by
  cases hfound : registry.cache.peek? path with
  | none => rfl
  | some schema => exact h.entries _ (Table.mem_of_get? hfound)

theorem OnlyFreeForms.seed (h : OnlyFreeForms registry) (path : Path) :
    OnlyFreeForms { registry with cache := registry.cache.seed path Schema.freeForm } := by
  refine ⟨h.editors, fun entry hentry => ?_⟩
  unfold Cache.seed at hentry
  split at hentry
  · exact h.entries entry hentry
  · rcases Table.mem_insert hentry with rfl | hold
    · rfl
    · exact h.entries entry hold

/-- A rendering shows `shown` where only free forms are filed, and files no other schema. -/
def Mirroring {α : Type} (renderer : Renderer α) (shown : α) : Prop :=
  ∀ registry, OnlyFreeForms registry →
    (renderer.run registry).1 = shown ∧ OnlyFreeForms (renderer.run registry).2

theorem mirroring_pure {α : Type} (a : α) : Mirroring (pure a) a := fun _ hfree => ⟨rfl, hfree⟩

theorem Mirroring.bind {α β : Type} {first : Renderer α} {next : α → Renderer β} {a : α} {b : β}
    (hfirst : Mirroring first a) (hnext : Mirroring (next a) b) : Mirroring (first >>= next) b := by
  intro registry hfree
  obtain ⟨rfl, hlater⟩ := hfirst registry hfree
  exact hnext _ hlater

theorem mirroring_mapM {α β γ : Type} {render : β → Renderer γ} {item : α → β} {shown : α → γ}
    {parts : List α} (h : ∀ part ∈ parts, Mirroring (render (item part)) (shown part)) :
    Mirroring ((parts.map item).mapM render) (parts.map shown) := by
  induction parts with
  | nil => exact fun registry hfree => ⟨rfl, hfree⟩
  | cons part rest ih =>
    intro registry hfree
    obtain ⟨hfirst, hnext⟩ := h part List.mem_cons_self registry hfree
    obtain ⟨hothers, hlast⟩ := ih (fun other hother => h other (List.mem_cons_of_mem part hother)) _
      hnext
    rw [List.map_cons, run_mapM_cons, List.map_cons, ← hfirst, ← hothers]
    exact ⟨rfl, hlast⟩

/-- The fields of a free form are those of the keys that the object has. -/
theorem fieldSchemas_any (found : Option Value) : fieldSchemas ⟨[], .any⟩ [] found
    = ((found.bind Value.asMembers?).getD []).map fun member => (member.1, Schema.infer member.2) := by
  change List.map _ (List.filter (fun _ => true) _) = _
  rw [List.filter_eq_self.mpr fun _ _ => rfl]

theorem classify_freeForm (maxDepth : Nat) :
    Node.classify (Schema.resolve maxDepth Schema.freeForm Schema.freeForm).toOption.join
      = .object ⟨[], .any⟩ :=
  congrArg Node.classify (target?_of_direct rfl)

/-- The module of an object that takes any keys. -/
def freeRequest (title : Option String) (path : Path) : ModuleRequest :=
  ⟨title, path, .object Schema.freeForm false, false⟩

variable {members : List (String × Value)}

/-- **The fields of a free form are those of the members**, each shown by its own schema. -/
theorem mirroring_fields {path : Path}
    (hread : Document.read? view.document path = some (.obj members))
    (hfields : ∀ member ∈ members, Mirroring
      (field view room member.1 (Schema.infer member.2) Schema.freeForm (path.child member.1))
      (mirror room (some member.1) (path.child member.1) member.2)) :
    Mirroring (fields view (field view room) Schema.freeForm path [])
      (members.map fun member =>
        (member.1, mirror room (some member.1) (path.child member.1) member.2), true) := by
  unfold fields
  rw [classify_freeForm]
  dsimp only
  rw [fieldSchemas_any, hread]
  refine Mirroring.bind ?_ (mirroring_pure _)
  exact mirroring_mapM fun member hmember => (hfields member hmember).bind (mirroring_pure _)

/-- **A module of any keys mirrors its object** as far as its fields mirror its members. -/
theorem mirroring_module {path : Path} (title : Option String)
    (hread : Document.read? view.document path = some (.obj members))
    (hfields : ∀ member ∈ members, Mirroring
      (field view room member.1 (Schema.infer member.2) Schema.freeForm (path.child member.1))
      (mirror room (some member.1) (path.child member.1) member.2)) :
    Mirroring (module view (field view room) (freeRequest title path))
      (mirror (room + 1) title path (.obj members)) := by
  intro registry hfree
  have hcurrent : (currentEditor view (freeRequest title path)).run registry = (none, registry) := by
    rw [run_currentEditor, Registry.editor?, hfree.editors]
    rfl
  have hschema : (schemaFor (freeRequest title path)).run registry = _ :=
    run_schemaFor_object rfl registry
  rw [freeRequest, hfree.getD_peek? path] at hschema
  obtain ⟨hbody, hlater⟩ := mirroring_fields hread hfields _ (hfree.seed path)
  rw [run_module_form hcurrent rfl hschema]
  exact ⟨congrArg (fun body : List (String × Widget) × Bool =>
    Widget.form (headOf view (freeRequest title path) none) body.1 body.2) hbody, hlater⟩

theorem resolve_infer (maxDepth : Nat) (value root : Value) :
    Schema.resolve maxDepth (Schema.infer value) root = .ok (some (Schema.infer value)) :=
  resolve_of_target? (target?_of_direct rfl)

/-- A value that is no object calls for its control. -/
theorem mirroring_control {value : Value} {path : Path} (next : FieldRenderer) (key : String)
    (hread : Document.read? view.document path = some value) (hvalue : value.asMembers? = none) :
    Mirroring (openField view next key (Schema.infer value) Schema.freeForm path)
      (control path value) := by
  unfold openField
  simp only [resolve_infer, hread]
  cases value with
  | null => exact mirroring_pure _
  | str s => exact mirroring_pure _
  | bool checked => cases checked <;> exact mirroring_pure _
  | num n => cases n <;> exact mirroring_pure _
  | arr items =>
    change Mirroring (array view next key none Schema.freeForm path) _
    unfold array
    have hitems : itemSchema? view none Schema.freeForm = some .null := target?_of_direct rfl
    simp only [hitems, hread]
    exact mirroring_pure _
  | obj members => exact absurd hvalue nofun

/-- **A field of a free form mirrors its value**, with the levels that are left.  The induction is on
these levels, along the mirror. -/
theorem mirroring_field {value : Value} (room : Nat) (key : String) (path : Path)
    (hregular : Regular value) (hread : Document.read? view.document path = some value) :
    Mirroring (field view room key (Schema.infer value) Schema.freeForm path)
      (mirror room (some key) path value) := by
  induction room generalizing key path value with
  | zero =>
    change Mirroring (pure (rawJson path ((Document.read? view.document path).getD .null))) _
    rw [hread]
    exact mirroring_pure _
  | succ room ih =>
    change Mirroring (openField view (field view room) _ _ _ _) _
    cases value with
    | obj members =>
      obtain ⟨hdistinct, hmembers⟩ := Value.regular_obj.mp hregular
      have hmodule : openField view (field view room) key (Schema.infer (.obj members))
          Schema.freeForm path = module view (field view room) (freeRequest (some key) path) := by
        unfold openField
        simp only [resolve_infer]
        rfl
      rw [hmodule]
      exact mirroring_module (some key) hread fun member hmember =>
        ih member.1 (path.child member.1) (hmembers member hmember)
          (Document.read?_child_of_mem hread hdistinct hmember)
    | _ => exact mirroring_control _ key hread rfl

end Render

namespace Session

open Render

variable {document : Value} {path : Path} {members : List (String × Value)}

/-- **An editor that was never mounted mirrors the object at its path.** -/
theorem render_ofDocument (config : Config) (hdocument : Regular document)
    (hread : Document.read? document path = some (.obj members)) :
    ((ofDocument config document).render path).1
      = mirror (config.maxRenderDepth + 2) none path (.obj members) := by
  obtain ⟨hdistinct, hmembers⟩ := Value.regular_obj.mp (regular_read? hdocument hread)
  have hmodule : Mirroring (module (ofDocument config document).view
      ((ofDocument config document).fieldAt 0) (freeRequest none path)) (mirror (config.maxRenderDepth + 2) none path (.obj members)) :=
    mirroring_module none hread fun member hmember =>
      mirroring_field (config.maxRenderDepth + 1) member.1 (path.child member.1)
        (hmembers member hmember) (Document.read?_child_of_mem hread hdistinct hmember)
  exact (hmodule _ (onlyFreeForms_empty config.policy)).1

/-- **A free form hides nothing.**  In a fresh session an editor that was never mounted shows the
object at its path so that each value which the object reaches through keys, and which is no object, is
shown by exactly one leaf.  The leaf is at the path of the value, but where this has more keys than
there are levels, at as many of them as there are.  Every leaf is the control of a value that is in the
document at its path, or where the levels end its JSON text; and all other widgets are forms, whose
fields are the keys of the object at their path, in its order and each once. -/
theorem free_forms_hide_nothing (config : Config) (hdocument : Regular document)
    (hread : Document.read? document path = some (.obj members)) :
    let tree := ((ofDocument config document).render path).1
    let levels := config.maxRenderDepth + 2
    (∀ (keys : List String) found, Document.read? (.obj members) (keys.map .key) = some found →
      found.asMembers? = none →
        ∃ leaf, tree.showing (path ++ keys.map .key) = [leaf] ∧
          leaf.path = path ++ (keys.take levels).map .key) ∧
    (∀ leaf ∈ tree.leaves, ∃ found, Document.read? document leaf.path = some found ∧
      (leaf = control leaf.path found ∨
        leaf = .rawJson leaf.path (Json.pretty found) ∧
          leaf.path.length = path.length + levels)) ∧
    ∀ node ∈ tree.nodes, node.isLeaf = false →
      ∃ head fields own, node = .form head fields true ∧
        Document.read? document head.path = some (.obj own) ∧
        fields.map (·.1) = Table.keys own ∧ (Table.keys own).Nodup := by
  intro tree levels
  have htree : tree = mirror levels none path (.obj members) :=
    render_ofDocument config hdocument hread
  have hregular : Regular (.obj members) := regular_read? hdocument hread
  have hnodes : tree.Every (Mirrors document (path.length + levels)) :=
    htree ▸ every_mirror levels none path hregular hread
  refine ⟨fun keys found hkeys hfound => ?_, fun leaf hleaf => ?_, fun node hnode hinner => ?_⟩
  · rw [htree]
    exact showing_mirror levels none path hregular hkeys hfound
  · obtain ⟨hnode, hisLeaf⟩ := List.mem_filter.mp hleaf
    cases hnodes leaf hnode with
    | form => exact absurd hisLeaf Bool.false_ne_true
    | @control path value hvalue =>
      rw [path_control]
      exact ⟨value, hvalue, .inl rfl⟩
    | @rest path value hvalue hreach => exact ⟨value, hvalue, .inr ⟨rfl, hreach⟩⟩
  · cases hnodes node hnode with
    | @form head own fields hobject hdistinct hfields =>
      refine ⟨head, fields, own, rfl, hobject, ?_, hdistinct⟩
      simpa [Table.keys, Function.comp_def] using congrArg (List.map Prod.fst) hfields
    | @control path value =>
      exact absurd (hinner.symm.trans (isLeaf_control path value)) Bool.false_ne_true
    | rest => exact absurd hinner.symm Bool.false_ne_true

/-- An object in a list, with one level left for the objects in it: the value below two more is in the
JSON text of the second. -/
theorem free_forms_hide_nothing_deep :
    let path := (Path.root.child "list").item 0
    let object := Value.obj [("a", .obj [("b", .obj [("c", .null)])]), ("d", .arr [.null])]
    let document := Value.obj [("root", .obj [("list", .arr [object])])]
    let tree := ((ofDocument { Config.default with maxRenderDepth := 0 } document).render path).1
    let bound := (path.child "a").child "b"
    tree.showing (bound.child "c") = [.rawJson bound "\x7b\n  \"c\": null\n\x7d"] ∧
      tree.showing (path.child "d") = [.rawJson (path.child "d") "[\n  null\n]"] ∧
      ∀ leaf ∈ tree.leaves, (Document.read? document leaf.path).isSome := by
  intro path object document tree bound
  have hdocument : Regular document := by decide
  obtain ⟨hshown, hleaves, -⟩ := free_forms_hide_nothing { Config.default with maxRenderDepth := 0 }
    hdocument (show Document.read? document path = some object from rfl)
  -- what a leaf shows of a value without a control of its own is its JSON text
  have htext : ∀ {shown : Path} {leaf : Widget} (value : Value), tree.showing shown = [leaf] →
      Document.read? document leaf.path = some value →
      control leaf.path value = .rawJson leaf.path (Json.pretty value) →
      leaf = .rawJson leaf.path (Json.pretty value) := by
    intro shown leaf value hshowing hvalue hcontrol
    have hleaf : leaf ∈ tree.showing shown := hshowing ▸ List.mem_singleton_self leaf
    obtain ⟨found, hfound, hleaf | ⟨hleaf, -⟩⟩ := hleaves leaf (List.mem_filter.mp hleaf).1
    · obtain rfl := Option.some.inj (hvalue.symm.trans hfound)
      exact hleaf.trans hcontrol
    · obtain rfl := Option.some.inj (hvalue.symm.trans hfound)
      exact hleaf
  refine ⟨?_, ?_, fun leaf hleaf => ?_⟩
  · obtain ⟨leaf, hshowing, hpath⟩ := hshown ["a", "b", "c"] .null rfl rfl
    have hleaf := htext (.obj [("c", .null)]) hshowing (hpath ▸ rfl) rfl
    rw [hpath] at hleaf
    exact hleaf ▸ hshowing
  · obtain ⟨leaf, hshowing, hpath⟩ := hshown ["d"] (.arr [.null]) rfl rfl
    have hleaf := htext (.arr [.null]) hshowing (hpath ▸ rfl) rfl
    rw [hpath] at hleaf
    exact hleaf ▸ hshowing
  · obtain ⟨found, hfound, -⟩ := hleaves leaf hleaf
    exact Option.isSome_iff_exists.mpr ⟨found, hfound⟩

end Session

end SchemaForms
