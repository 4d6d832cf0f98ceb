import SchemaForms.Proofs.Render.Bounded
import SchemaForms.Proofs.Render.Nesting
import SchemaForms.Proofs.Session.Inserting
import SchemaForms.Proofs.Store.Padding

/-!
# Proofs/Session/AddingItems — what a list adds is its next item

A list control shows one item for each element of the sequence at its path, and adds to that path.
Whether the sequence is there, null or still missing, what is put at its end becomes the element
behind the last one, and the list rendered again shows it behind the items that it showed before
(`lists_show_what_they_add`).
-/

namespace SchemaForms

open Schema (Node)
open Document (itemsAt)

/-! ## List controls -/

/-- The name of a list control, and what its "add" control does. -/
structure ListKind where
  name : String
  add : AddKind
  deriving DecidableEq

/-- The list control that sequences of such elements have, if they have one of their own.  For blocks
the "add" control has their kind; otherwise it has a template: the empty text, zero or false, or an
object with all declared keys in their order, each null. -/
def Schema.Node.listKind? : Node → Option ListKind
  | .block category => some ⟨"block-list", .block category true⟩
  | .primitive .string _ => some ⟨"primitive-list", .item (.str "")⟩
  | .primitive .number _ | .primitive .integer _ => some ⟨"primitive-list", .item (.num (.int 0))⟩
  | .primitive .boolean _ => some ⟨"primitive-list", .item (.bool false)⟩
  | .object shape =>
    some ⟨"object-list", .item (.obj (shape.properties.map fun property => (property.1, .null)))⟩
  | .array _ | .unresolved => none

theorem Schema.Node.listKind?_primitive (kind : Primitive) (options : Option (List String)) :
    (Node.primitive kind options).listKind? = some ⟨"primitive-list", .item kind.default⟩ := by
  cases kind <;> rfl

/-- Lists of blocks are added to at their end. -/
theorem Schema.Node.isArray_of_listKind? {node : Node} {kind : ListKind} {category : Category}
    {isArray : Bool} (hkind : node.listKind? = some kind)
    (hblock : kind.add = .block category isArray) : isArray = true := by
  cases node with
  | block =>
    obtain rfl := Option.some.inj hkind
    exact (AddKind.block.inj hblock).2.symm
  | primitive =>
    rw [listKind?_primitive] at hkind
    obtain rfl := Option.some.inj hkind
    exact absurd hblock nofun
  | object =>
    obtain rfl := Option.some.inj hkind
    exact absurd hblock nofun
  | array | unresolved => exact absurd hkind nofun

/-- **A list control of a kind**: it adds to its path, and has one item for each of `count`
elements, at the path of the element. -/
structure Widget.Lists (widget : Widget) (path : Path) (kind : ListKind) (count : Nat) : Prop where
  kindName : widget.kindName = kind.name
  affordance : widget.affordance? = some ⟨path, kind.add⟩
  items : widget.children.map Widget.path = (List.range count).map path.item

/-- **The list with one item more**, behind those that it showed. -/
structure Widget.ListsOneMore (longer list : Widget) (path : Path) (kind : ListKind) : Prop where
  lists : longer.Lists path kind (list.children.length + 1)
  items : longer.children.map Widget.path
    = list.children.map Widget.path ++ [path.item list.children.length]

namespace Widget.Lists

variable {list longer : Widget} {path : Path} {kind : ListKind} {count : Nat}

theorem length_children (h : list.Lists path kind count) : list.children.length = count := by
  simpa using congrArg List.length h.items

theorem listsOneMore (hlist : list.Lists path kind count)
    (hlonger : longer.Lists path kind (count + 1)) : longer.ListsOneMore list path kind := by
  obtain rfl := hlist.length_children
  refine ⟨hlonger, ?_⟩
  rw [hlonger.items, hlist.items, List.range_succ, List.map_append]
  rfl

end Widget.Lists

/-! ## Rendering a list -/

namespace Render

variable {view : View} {next : FieldRenderer} {path : Path} {key : String}

theorem itemCount_eq (view : View) (path : Path) :
    itemCount view path = (itemsAt view.document path).length := by
  rw [itemCount, itemsAt]
  cases (Document.read? view.document path).bind Value.asItems? <;> rfl

/-- There is a module at the path of each element. -/
theorem map_path_itemModules (subject : Subject) (registry : Registry) :
    ((itemModules view next key path subject).run registry).1.map Widget.path
      = (List.range (itemCount view path)).map path.item :=
  map_run_mapM (fun i registry => path_module ⟨some s!"{key}[{i}]", path.item i, subject, true⟩
    registry) _ registry

/-- **A sequence of such elements is shown by its list control.** -/
theorem lists_array {items : Option Value} {root : Value} {kind : ListKind}
    (hkind : (Node.classify (itemSchema? view items root)).listKind? = some kind)
    (registry : Registry) : ((array view next key items root path).run registry).1.Lists path kind
      (itemCount view path) := by
  unfold array
  dsimp only
  cases hnode : Node.classify (itemSchema? view items root) with
  | block category =>
    obtain rfl : _ = kind := Option.some.inj (hnode ▸ hkind)
    exact ⟨rfl, rfl, map_path_itemModules _ registry⟩
  | primitive scalarKind options =>
    rw [hnode, Node.listKind?_primitive] at hkind
    obtain rfl := Option.some.inj hkind
    refine ⟨rfl, rfl, ?_⟩
    change (List.map _ _).map Widget.path = _
    rw [List.map_map]
    exact List.map_congr_left fun i _ => path_scalar scalarKind options (path.item i) _
  | object shape =>
    obtain rfl : _ = kind := Option.some.inj (hnode ▸ hkind)
    exact ⟨rfl, rfl, map_path_itemModules _ registry⟩
  | array | unresolved => exact absurd (hnode ▸ hkind) nofun

end Render

/-! ## Adding to a list -/

namespace Session

/-- **A field within the bound that describes a sequence is shown by its list control.** -/
theorem lists_fieldAt (session : Session) {depth : Nat}
    (hdepth : depth ≤ session.config.maxRenderDepth) (key : String) {fragment root : Value}
    {resolved items : Option Value} {kind : ListKind}
    (hlist : Schema.resolve session.config.maxRefDepth fragment root = .ok resolved)
    (harray : Node.classify resolved = .array items)
    (hkind : (Node.classify (Render.itemSchema? session.view items root)).listKind? = some kind)
    (path : Path) :
    (session.runRenderer (session.fieldAt depth key fragment root path)).1.Lists path kind
      (itemsAt session.store.document path).length := by
  have hfield : session.fieldAt depth key fragment root path
      = Render.array session.view (session.fieldAt (depth + 1)) key items root path := by
    rw [fieldAt_eq, Render.guarded, if_neg (Nat.not_lt.mpr hdepth), Render.openField]
    simp only [show session.view.maxRefDepth = session.config.maxRefDepth from rfl, hlist, harray]
  rw [hfield]
  exact Render.itemCount_eq session.view path ▸ Render.lists_array hkind session.registry

/-- **The sequence at a path with an element more at its end.** -/
structure Appended (session next : Session) (path : Path) (item : Value) : Prop where
  config : next.config = session.config
  elements : itemsAt next.store.document path = itemsAt session.store.document path ++ [item]

/-- What a list needs to be added to: its path is near, and leads to a sequence, null or nothing. -/
structure Appendable (session : Session) (path : Path) : Prop where
  near : session.store.checkPadding path = .ok ()
  holds : session.store.Holds path (itemsAt session.store.document path)

variable {session : Session} {path : Path}

/-- **A path of which all elements are there is near.** -/
theorem appendable_of_elements
    (hvalue : session.value? path = none ∨ session.value? path = some .null ∨
      ∃ elements, session.value? path = some (.arr elements))
    (helements : ∀ (above : Path) i, above.item i <+: path →
      (session.value? (above.item i)).isSome) : session.Appendable path := by
  refine ⟨Store.checkPadding_eq_ok.mpr (Walk.tooFar?_of_elements helements), ?_⟩
  obtain ⟨elements, hholds⟩ := Store.exists_holds_iff.mpr hvalue
  exact hholds.eq_itemsAt ▸ hholds

theorem Appendable.append (h : session.Appendable path) (item : Value) :
    ∃ next, session.append path item
        = .ok ((itemsAt session.store.document path).length, next) ∧
      session.Appended next path item := by
  refine ⟨_, append_eq_ok.mpr ⟨_, Store.append_of_holds h.near h.holds item, rfl⟩, rfl, ?_⟩
  change itemsAt (Document.write _ _ _) _ = _
  rw [itemsAt, Document.read?_write_self]
  rfl

/-- **An insertion into a list is an append of the instance**, whose path it answers with. -/
theorem Appendable.insertBlock (h : session.Appendable path) (category : Category)
    (definition : Catalog.Definition) :
    ∃ next, session.insertBlock ⟨category, path, true⟩ definition
        = .ok (path.item (itemsAt session.store.document path).length, next) ∧
      session.Appended next path (definition.newInstance category) := by
  obtain ⟨next, happend, hconfig, helements⟩ := h.append (definition.newInstance category)
  let block := path.item (itemsAt session.store.document path).length
  refine ⟨{ next with registry := next.registry.dropUnder block }, ?_, hconfig, helements⟩
  rw [Session.insertBlock, place, if_pos rfl, happend]
  rfl

/-- **Every list adds its next item.**  A field within the bound that describes a sequence of blocks,
scalars or objects, at a path of which all elements are there and that leads to a sequence, null or
nothing, is shown by its list control, with one item for each element.  The control adds to that path,
and has the kind of the blocks or the template that the elements call for (`listKind?`).  Whatever is
appended there — the template, or for blocks any instance — has the index behind the last item, and the
list rendered again is of the same kind and shows it behind the items that it showed before.  So it is
with a block that is inserted there, and the insertion answers with the path of that item. -/
theorem lists_show_what_they_add (session : Session) {depth : Nat}
    (hdepth : depth ≤ session.config.maxRenderDepth) (key : String) {fragment root : Value}
    {resolved items : Option Value} {kind : ListKind} {path : Path}
    (hlist : Schema.resolve session.config.maxRefDepth fragment root = .ok resolved)
    (harray : Node.classify resolved = .array items)
    (hkind : (Node.classify (Render.itemSchema? session.view items root)).listKind? = some kind)
    (hvalue : session.value? path = none ∨ session.value? path = some .null ∨
      ∃ elements, session.value? path = some (.arr elements))
    (helements : ∀ (above : Path) i, above.item i <+: path →
      (session.value? (above.item i)).isSome) :
    let render (session : Session) :=
      session.runRenderer (session.fieldAt depth key fragment root path)
    let list := (render session).1
    let shown := (render session).2
    let count := list.children.length
    ∃ add, list.affordance? = some add ∧ add.target = path ∧ add.kind = kind.add ∧
      list.Lists path kind count ∧
      (∀ item, ∃ next, shown.append add.target item = .ok (count, next) ∧
        (render next).1.ListsOneMore list path kind) ∧
      ∀ category isArray, add.kind = .block category isArray →
        ∀ definition, ∃ next, shown.insertBlock ⟨category, add.target, isArray⟩ definition
            = .ok (path.item count, next) ∧
          (render next).1.ListsOneMore list path kind := by
  intro render list shown count
  have hlists : list.Lists path kind (itemsAt session.store.document path).length :=
    session.lists_fieldAt hdepth key hlist harray hkind path
  have hagain : ∀ {next item}, shown.Appended next path item →
      (render next).1.ListsOneMore list path kind := by
    intro next item hnext
    have hconfig : next.config = session.config := hnext.config
    refine hlists.listsOneMore ?_
    have hlength := congrArg List.length hnext.elements
    rw [List.length_append, List.length_singleton] at hlength
    rw [← hconfig] at hdepth hlist
    have hkind' : (Node.classify (Render.itemSchema? next.view items root)).listKind? = some kind := by
      rw [Render.itemSchema?, view, hconfig]
      exact hkind
    exact hlength ▸ next.lists_fieldAt hdepth key hlist harray hkind' path
  have hcount : count = (itemsAt session.store.document path).length := hlists.length_children
  have hshown : shown.Appendable path := appendable_of_elements hvalue helements
  refine ⟨_, hlists.affordance, rfl, rfl, hcount ▸ hlists, fun item => ?_, ?_⟩
  · obtain ⟨next, happend, hnext⟩ := hshown.append item
    exact ⟨next, hcount ▸ happend, hagain hnext⟩
  · intro category isArray hblock definition
    obtain rfl := Node.isArray_of_listKind? hkind hblock
    obtain ⟨next, hinsert, hnext⟩ := hshown.insertBlock category definition
    exact ⟨next, hcount ▸ hinsert, hagain hnext⟩

/-- The actions of a step, null so far: a list in an element of a list, to which a block is added.  A
list of objects with two declared keys, to which the template is added: the keys, each null. -/
theorem lists_show_what_they_add_nested :
    let path := ((Path.root.child "steps").item 1).child "actions"
    let document := Value.obj [("root", .obj [("steps", .arr [.null, .obj [("actions", .null)]])])]
    let blocks := Value.obj [("items", .obj [(Schema.blockKeyword, .str "action")])]
    let text := Value.obj [("type", .str "string")]
    let objects := Value.obj [("items", .obj [("properties", .obj [("entity", text), ("to", text)])])]
    let template := Value.obj [("entity", .null), ("to", .null)]
    let session := ofDocument .default document
    let render (fragment : Value) (session : Session) :=
      session.runRenderer (session.fieldAt 2 "actions" fragment .null path)
    let list (fragment : Value) := (render fragment session).1
    let shown (fragment : Value) := (render fragment session).2
    ((list blocks).affordance? = some ⟨path, .block .action true⟩ ∧ (list blocks).children = [] ∧
      ∃ next, (shown blocks).insertBlock ⟨.action, path, true⟩ (.named "delay_action")
          = .ok (path.item 0, next) ∧
        (render blocks next).1.ListsOneMore (list blocks) path
          ⟨"block-list", .block .action true⟩) ∧
    (list objects).affordance? = some ⟨path, .item template⟩ ∧
      ∃ next, (shown objects).append path template = .ok (0, next) ∧
        (render objects next).1.ListsOneMore (list objects) path ⟨"object-list", .item template⟩ := by
  intro path document blocks text objects template session render list shown
  have hpath : session.value? path = some .null := rfl
  have helements : ∀ (above : Path) i, above.item i <+: path →
      (session.value? (above.item i)).isSome := by
    rintro above i ⟨rest, hrest⟩
    rw [← hrest] at hpath
    obtain ⟨element, helement, -⟩ :=
      Option.bind_eq_some_iff.mp ((Document.read?_append ..).symm.trans hpath)
    exact Option.isSome_iff_exists.mpr ⟨element, helement⟩
  have hdepth : 2 ≤ session.config.maxRenderDepth := by decide
  have hblocks : Schema.resolve session.config.maxRefDepth blocks .null = .ok (some blocks) := rfl
  have hobjects : Schema.resolve session.config.maxRefDepth objects .null = .ok (some objects) := rfl
  obtain ⟨add, hadd, -, -, -, -, hblock⟩ := session.lists_show_what_they_add hdepth "actions" hblocks
    rfl rfl (.inr (.inl hpath)) helements
  obtain ⟨other, hother, -, -, -, happend, -⟩ := session.lists_show_what_they_add hdepth
    "actions" hobjects rfl rfl (.inr (.inl hpath)) helements
  obtain rfl : _ = add := Option.some.inj hadd
  obtain rfl : _ = other := Option.some.inj hother
  exact ⟨⟨hadd, rfl, hblock .action true rfl (.named "delay_action")⟩, hother, happend template⟩

end Session

end SchemaForms
