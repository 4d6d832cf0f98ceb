import Mathlib.Data.List.Nodup
import SchemaForms.Proofs.Render.Parametric

/-!
# Proofs/Render/Positions — where the widgets of a tree are

A widget in a tree is reached from the top by going to one child after the other: these steps are its
position.  Its path is the address of the value that it edits, and several widgets may share one.  If
every widget passes on its own path to its children, or the path of a part to each of them
(`Addresses`), then the path of a widget says where it can be: all positions of a path are on one way
down (`Addressed.comparable`), and a search for a path finds the topmost of them
(`Addressed.find?_eq_some_iff`).
-/

namespace SchemaForms.Widget

variable {P : Widget → Prop} {tree node found other : Widget} {path : Path}
  {position further : List Nat}

/-! ## Trees and their branches -/

/-- **The widgets of a tree** are the one at the top and those of its children. -/
theorem nodes_eq (tree : Widget) : tree.nodes = tree :: tree.children.flatMap nodes := by
  cases tree with
  | blockList | primitiveList | objectList => rw [nodes, nodesOfItems_eq_flatMap]; rfl
  | filledSlot path category block => rw [nodes, children, List.flatMap_singleton]
  | form head fields isOpen => rw [nodes, nodesOfFields_eq_flatMap, children, List.flatMap_map]
  | _ => rfl

theorem every_iff : Every P tree ↔ P tree ∧ ∀ child ∈ tree.children, Every P child := by
  simp only [Every, nodes_eq tree, List.forall_mem_cons, List.mem_flatMap]
  grind

/-- **A search looks at the top first**, and then into the children in their order. -/
theorem find?_eq (tree : Widget) (path : Path) : tree.find? path =
    if tree.path = path then some tree
    else tree.children.findSome? fun child => child.find? path := by
  rw [find?, nodes_eq, List.find?_cons, List.find?_flatMap]
  by_cases hpath : tree.path = path <;> simp [hpath, find?]

theorem find?_eq_none_iff : tree.find? path = none ↔ ∀ node ∈ tree.nodes, node.path ≠ path := by
  simp [find?, List.find?_eq_none]

theorem sizeOf_lt_of_mem_children {child : Widget} (h : child ∈ tree.children) :
    sizeOf child < sizeOf tree := by
  cases tree with
  | blockList path _ items | primitiveList path _ items | objectList path _ items =>
    have hlt : sizeOf child < sizeOf items := List.sizeOf_lt_of_mem h
    simp only [blockList.sizeOf_spec, primitiveList.sizeOf_spec, objectList.sizeOf_spec]
    omega
  | filledSlot path category block =>
    obtain rfl := List.mem_singleton.mp h
    simp only [filledSlot.sizeOf_spec]
    omega
  | form head fields isOpen =>
    obtain ⟨⟨key, widget⟩, hfield, rfl⟩ := List.mem_map.mp h
    have hlt := List.sizeOf_lt_of_mem hfield
    simp only [form.sizeOf_spec, Prod.mk.sizeOf_spec] at hlt ⊢
    omega
  | _ => exact absurd h List.not_mem_nil

/-- **Induction from the children of a widget to the widget.** -/
theorem children_induction {motive : Widget → Prop}
    (step : ∀ tree, (∀ child ∈ tree.children, motive child) → motive tree) (tree : Widget) :
    motive tree :=
  step tree fun child hchild =>
    have := sizeOf_lt_of_mem_children hchild
    children_induction step child
termination_by sizeOf tree

/-! ## Positions -/

/-- **The widget at a position**: which child to go to, one after the other from the top. -/
def at? : Widget → List Nat → Option Widget
  | tree, [] => some tree
  | tree, i :: rest => tree.children[i]?.bind fun child => child.at? rest

theorem at?_cons_eq_some {i : Nat} {rest : List Nat} : tree.at? (i :: rest) = some node ↔
    ∃ child, tree.children[i]? = some child ∧ child.at? rest = some node := Option.bind_eq_some_iff

/-- A position below another is found from there. -/
theorem at?_append (tree : Widget) (position further : List Nat) :
    tree.at? (position ++ further) = (tree.at? position).bind fun node => node.at? further := by
  induction position generalizing tree with
  | nil => rfl
  | cons i rest ih =>
    rw [List.cons_append, at?, at?, Option.bind_assoc]
    exact congrArg _ (funext fun child => ih child)

/-- **The widgets of a tree are those at its positions.** -/
theorem mem_nodes_iff : node ∈ tree.nodes ↔ ∃ position, tree.at? position = some node := by
  induction tree using children_induction with
  | step tree ih =>
    rw [nodes_eq, List.mem_cons, List.mem_flatMap]
    constructor
    · rintro (rfl | ⟨child, hchild, hnode⟩)
      · exact ⟨[], rfl⟩
      · obtain ⟨rest, hrest⟩ := (ih child hchild).mp hnode
        obtain ⟨i, hi⟩ := List.getElem?_of_mem hchild
        exact ⟨i :: rest, at?_cons_eq_some.mpr ⟨child, hi, hrest⟩⟩
    · rintro ⟨_ | ⟨i, rest⟩, hat⟩
      · exact .inl (Option.some.inj hat).symm
      · obtain ⟨child, hi, hrest⟩ := at?_cons_eq_some.mp hat
        have hchild := List.mem_of_getElem? hi
        exact .inr ⟨child, hchild, (ih child hchild).mpr ⟨rest, hrest⟩⟩

/-! ## Addresses -/

/-- The widgets of a list edit the elements of its value, each at its index. -/
def EditElements (path : Path) (items : List Widget) : Prop :=
  items.map Widget.path = (List.range items.length).map path.item

/-- The fields of a form edit members of its value, each at its key and no key twice, or the only field
edits the value itself. -/
def EditMembers (path : Path) (fields : List (String × Widget)) : Prop :=
  (∃ value, fields = [("value", value)] ∧ value.path = path) ∨
    ((fields.map (·.1)).Nodup ∧ ∀ field ∈ fields, field.2.path = path.child field.1)

/-- **What the widgets directly inside a widget edit**: in a list elements, in a form members, and in a
slot the value of the slot. -/
def Addresses : Widget → Prop
  | .blockList path _ items | .primitiveList path _ items | .objectList path _ items =>
    EditElements path items
  | .filledSlot path _ block => block.path = path
  | .form head fields _ => EditMembers head.path fields
  | _ => True

/-- A tree in which every widget addresses its children. -/
def Addressed (tree : Widget) : Prop := Every Addresses tree

/-- Widgets a step of their own below a path edit different parts of its value. -/
theorem parts_of_steps {children : List Widget} {steps : List Segment} (hsteps : steps.Nodup)
    (hpaths : children.map Widget.path = steps.map fun step => path ++ [step]) :
    (children.map Widget.path).Nodup ∧
      ∀ child ∈ children, ∃ segment, child.path = path ++ [segment] := by
  refine ⟨?_, fun child hchild => ?_⟩
  · rw [hpaths]
    exact hsteps.map fun _ _ hsame => List.singleton_inj.mp (List.append_cancel_left hsame)
  · have hmem : child.path ∈ children.map Widget.path := List.mem_map_of_mem hchild
    rw [hpaths] at hmem
    obtain ⟨segment, -, hsegment⟩ := List.mem_map.mp hmem
    exact ⟨segment, hsegment.symm⟩

/-- **The children of a widget** edit different parts of its value, unless an only child edits the value
itself. -/
theorem Addresses.cases (h : tree.Addresses) :
    (∃ child, tree.children = [child] ∧ child.path = tree.path) ∨
      ((tree.children.map Widget.path).Nodup ∧
        ∀ child ∈ tree.children, ∃ segment, child.path = tree.path ++ [segment]) := by
  cases tree with
  | blockList path _ items | primitiveList path _ items | objectList path _ items =>
    have hindices : ((List.range items.length).map Segment.index).Nodup :=
      List.nodup_range.map fun _ _ => Segment.index.inj
    refine .inr (parts_of_steps hindices ?_)
    rw [List.map_map]
    exact h
  | filledSlot path category block => exact .inl ⟨block, rfl, h⟩
  | form head fields isOpen =>
    obtain ⟨value, rfl, hpath⟩ | ⟨hkeys, hpaths⟩ := h
    · exact .inl ⟨value, rfl, hpath⟩
    · have hsteps : ((fields.map (·.1)).map Segment.key).Nodup :=
        hkeys.map fun _ _ => Segment.key.inj
      refine .inr (parts_of_steps hsteps ?_)
      simp only [children, List.map_map]
      exact List.map_congr_left hpaths
  | _ => exact .inr (parts_of_steps List.nodup_nil rfl)

/-- **A child edits the value of its parent, or a part of it.** -/
theorem Addresses.step (h : tree.Addresses) {child : Widget} (hchild : child ∈ tree.children) :
    child.path = tree.path ∨ ∃ segment, child.path = tree.path ++ [segment] := by
  obtain ⟨only, honly, hpath⟩ | ⟨-, hparts⟩ := h.cases
  · rw [honly] at hchild
    exact .inl (List.mem_singleton.mp hchild ▸ hpath)
  · exact .inr (hparts child hchild)

theorem Addresses.isPrefix (h : tree.Addresses) {child : Widget} (hchild : child ∈ tree.children) :
    tree.path <+: child.path := by
  obtain hpath | ⟨segment, hpath⟩ := h.step hchild
  · exact hpath ▸ List.prefix_refl _
  · exact hpath ▸ List.prefix_append _ _

/-- **No two children edit the same value.** -/
theorem Addresses.nodup (h : tree.Addresses) : (tree.children.map Widget.path).Nodup := by
  obtain ⟨child, hchildren, -⟩ | ⟨hnodup, -⟩ := h.cases
  · rw [hchildren]
    exact List.nodup_singleton _
  · exact hnodup

/-- **The children of a widget divide what is below it**: no path leads through two of them.  An only
child may share the path of its parent; a sibling beside it would be below it. -/
theorem Addresses.eq_of_isPrefix (h : tree.Addresses) {i j : Nat} {a b : Widget}
    (hi : tree.children[i]? = some a) (hj : tree.children[j]? = some b) (ha : a.path <+: path)
    (hb : b.path <+: path) : i = j := by
  have hmema := List.mem_of_getElem? hi
  have hmemb := List.mem_of_getElem? hj
  have hlength : a.path.length = b.path.length := by
    obtain ⟨only, honly, -⟩ | ⟨-, hparts⟩ := h.cases
    · rw [honly] at hmema hmemb
      rw [List.mem_singleton.mp hmema, List.mem_singleton.mp hmemb]
    · obtain ⟨first, hfirst⟩ := hparts a hmema
      obtain ⟨second, hsecond⟩ := hparts b hmemb
      simp [hfirst, hsecond]
  have hsame : a.path = b.path :=
    (List.prefix_of_prefix_length_le ha hb (Nat.le_of_eq hlength)).eq_of_length hlength
  have hget : ∀ {k : Nat} {c : Widget}, tree.children[k]? = some c →
      (tree.children.map Widget.path)[k]? = some c.path := by
    intro k c hk
    rw [List.getElem?_map, hk, Option.map_some]
  obtain ⟨hlt, -⟩ := List.getElem?_eq_some_iff.mp (hget hi)
  exact (List.getElem?_inj hlt h.nodup).mp ((hget hi).trans (hsame ▸ (hget hj).symm))

/-! ## Paths and positions -/

namespace Addressed

theorem child (h : Addressed tree) {child : Widget} (hchild : child ∈ tree.children) :
    Addressed child :=
  (every_iff.mp h).2 child hchild

/-- **The path of a widget leads through those above it.** -/
theorem isPrefix_of_at? (h : Addressed tree) (hat : tree.at? position = some node) :
    tree.path <+: node.path := by
  induction position generalizing tree with
  | nil =>
    obtain rfl := Option.some.inj hat
    exact List.prefix_refl _
  | cons i rest ih =>
    obtain ⟨child, hi, hrest⟩ := at?_cons_eq_some.mp hat
    have hchild := List.mem_of_getElem? hi
    exact ((Every.self h).isPrefix hchild).trans (ih (h.child hchild) hrest)

/-- **Widgets with one path are inside one child**: the children divide what is below. -/
theorem eq_of_path_eq (h : Addressed tree) {i j : Nat} {a b : Widget}
    (hi : tree.children[i]? = some a) (hj : tree.children[j]? = some b)
    (hat : a.at? position = some node) (hother : b.at? further = some other)
    (hpath : node.path = other.path) : i = j ∧ a = b := by
  have ha : Addressed a := h.child (List.mem_of_getElem? hi)
  have hb : Addressed b := h.child (List.mem_of_getElem? hj)
  obtain rfl : i = j := (Every.self h).eq_of_isPrefix hi hj (ha.isPrefix_of_at? hat)
    (hpath ▸ hb.isPrefix_of_at? hother)
  exact ⟨rfl, Option.some.inj (hi.symm.trans hj)⟩

/-- **All positions of a path are on one way down**, since they cannot part. -/
theorem comparable (h : Addressed tree) (hat : tree.at? position = some node)
    (hother : tree.at? further = some other) (hpath : node.path = other.path) :
    position <+: further ∨ further <+: position := by
  induction position generalizing tree further with
  | nil => exact .inl List.nil_prefix
  | cons i rest ih =>
    cases further with
    | nil => exact .inr List.nil_prefix
    | cons j below =>
      obtain ⟨a, hi, hrest⟩ := at?_cons_eq_some.mp hat
      obtain ⟨b, hj, hbelow⟩ := at?_cons_eq_some.mp hother
      obtain ⟨rfl, rfl⟩ := h.eq_of_path_eq hi hj hrest hbelow hpath
      have ha : Addressed a := h.child (List.mem_of_getElem? hi)
      simpa only [List.cons_prefix_cons, true_and] using ih ha hrest hbelow

end Addressed

/-- **A widget is the topmost at a path**: the way to any other widget at the path goes through it. -/
def Topmost (tree : Widget) (path : Path) (found : Widget) : Prop :=
  ∃ position, tree.at? position = some found ∧ found.path = path ∧
    ∀ further other, tree.at? further = some other → other.path = path → position <+: further

/-- There is one topmost widget at a path. -/
theorem Topmost.unique (hfound : tree.Topmost path found) (hother : tree.Topmost path other) :
    found = other := by
  obtain ⟨position, hat, hpath, habove⟩ := hfound
  obtain ⟨further, hfurther, hsame, hbelow⟩ := hother
  have hle : position <+: further := habove further other hfurther hsame
  obtain rfl : position = further :=
    hle.eq_of_length_le (hbelow position found hat hpath).length_le
  exact Option.some.inj (hat.symm.trans hfurther)

/-- All widgets at a path are inside the topmost. -/
theorem Topmost.mem_nodes (h : tree.Topmost path found) (hnode : node ∈ tree.nodes)
    (hpath : node.path = path) : node ∈ found.nodes := by
  obtain ⟨position, hat, -, habove⟩ := h
  obtain ⟨further, hfurther⟩ := mem_nodes_iff.mp hnode
  obtain ⟨rest, rfl⟩ := habove further node hfurther hpath
  rw [at?_append, hat, Option.bind_some] at hfurther
  exact mem_nodes_iff.mpr ⟨rest, hfurther⟩

namespace Addressed

/-- **What a search finds is the topmost.**  The induction is on the tree: a child in which something is
found is the only one that has the path below it. -/
theorem topmost_of_find? (h : Addressed tree) (hfind : tree.find? path = some found) :
    tree.Topmost path found := by
  induction tree using children_induction with
  | step tree ih =>
    rw [find?_eq] at hfind
    split at hfind
    · rename_i hpath
      obtain rfl := Option.some.inj hfind
      exact ⟨[], rfl, hpath, fun _ _ _ _ => List.nil_prefix⟩
    · rename_i hne
      obtain ⟨child, hchild, hinside⟩ := List.exists_of_findSome?_eq_some hfind
      obtain ⟨position, hat, hpath, habove⟩ := ih child hchild (h.child hchild) hinside
      obtain ⟨i, hi⟩ := List.getElem?_of_mem hchild
      refine ⟨i :: position, at?_cons_eq_some.mpr ⟨child, hi, hat⟩, hpath, ?_⟩
      intro further other hother hsame
      cases further with
      | nil =>
        obtain rfl := Option.some.inj hother
        exact absurd hsame hne
      | cons j below =>
        obtain ⟨sibling, hj, hbelow⟩ := at?_cons_eq_some.mp hother
        obtain ⟨rfl, rfl⟩ := h.eq_of_path_eq hi hj hat hbelow (hpath.trans hsame.symm)
        exact List.cons_prefix_cons.mpr ⟨rfl, habove below other hbelow hsame⟩

/-- **A search finds a widget exactly if it is the topmost at its path.** -/
theorem find?_eq_some_iff (h : Addressed tree) :
    tree.find? path = some found ↔ tree.Topmost path found := by
  refine ⟨h.topmost_of_find?, fun htopmost => ?_⟩
  have ⟨position, hat, hpath, _⟩ := htopmost
  have hsome : tree.find? path ≠ none := fun hnone =>
    find?_eq_none_iff.mp hnone found (mem_nodes_iff.mpr ⟨position, hat⟩) hpath
  obtain ⟨first, hfirst⟩ := Option.ne_none_iff_exists'.mp hsome
  rw [hfirst, (h.topmost_of_find? hfirst).unique htopmost]

end Addressed

/-- **A tree whose widgets are told apart by their paths.** -/
structure Navigable (tree : Widget) : Prop where
  addressed : tree.Addressed
  step : ∀ node ∈ tree.nodes, ∀ child ∈ node.children,
    child.path = node.path ∨ ∃ segment, child.path = node.path ++ [segment]
  siblings : ∀ node ∈ tree.nodes, (node.children.map Widget.path).Nodup
  chain : ∀ position further node other, tree.at? position = some node →
    tree.at? further = some other → node.path = other.path →
    position <+: further ∨ further <+: position
  find : ∀ path found, tree.find? path = some found ↔ tree.Topmost path found
  inside : ∀ path found, tree.find? path = some found →
    ∀ node ∈ tree.nodes, node.path = path → node ∈ found.nodes
  missing : ∀ path, tree.find? path = none ↔ ∀ node ∈ tree.nodes, node.path ≠ path

theorem Addressed.navigable (h : Addressed tree) : Navigable tree where
  addressed := h
  step node hnode _ hchild := (h node hnode).step hchild
  siblings node hnode := (h node hnode).nodup
  chain _ _ _ _ hat hother hpath := h.comparable hat hother hpath
  find _ _ := h.find?_eq_some_iff
  inside _ _ hfind _ hnode hpath := (h.topmost_of_find? hfind).mem_nodes hnode hpath
  missing _ := find?_eq_none_iff

end SchemaForms.Widget
