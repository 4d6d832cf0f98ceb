import SchemaForms.Proofs.Render.Positions
import SchemaForms.Proofs.Session.AddingItems

/-!
# Proofs/Render/Addressing — rendered trees address the document

Whatever a rendering shows, each widget edits the value of the one around it or a part of it, and no
two beside each other edit the same.  A field, a module and a slot have the path that they are asked
for, whatever is filed (`path_field`), so the widgets inside a list or a form have those of the
elements and the members.  That these are all different rests on the values that are at hand: the
document and the schemas have no key twice, and renderings file none that do
(`Registry.FilesRegular`).  So a tree can be searched by paths (`rendered_trees_are_navigable`).
-/

namespace SchemaForms

open Schema (Node ObjectShape)

/-! ## Regular schemas -/

namespace Schema

variable {root fragment resolved : Value} {maxDepth : Nat} {shape : ObjectShape}

/-- The schema of an object inside another is regular. -/
theorem regular_nested (hroot : root.Regular) (hfragment : fragment.Regular)
    (hresolved : resolve maxDepth fragment root = .ok (some resolved))
    (hshape : Node.classify (some resolved) = .object shape) :
    (nested maxDepth shape resolved root).Regular := by
  have hregular : resolved.Regular := (resolve_spec hroot hfragment hresolved).1
  obtain ⟨members, hmembers, -, rfl⟩ := classify_object hshape
  obtain rfl := Option.some.inj hmembers
  unfold nested
  split
  · exact (proper_freeFormWithin hroot fun schema => regular_additionalOf hregular).regular
  · exact regular_foldl_insert (Value.regular_obj.mp hregular).2 (regular_keywordsOf hroot)

end Schema

/-- **The schemas that a registry files are regular**, those in its cache and those that its editors
were mounted with. -/
structure Registry.FilesRegular (registry : Registry) : Prop where
  cache : ∀ path schema, registry.cache.peek? path = some schema → schema.Regular
  editors : ∀ path state descriptor schema, registry.editor? path = some state →
    state.descriptor = some descriptor → descriptor.schema = some schema → schema.Regular

namespace Registry.FilesRegular

variable {registry : Registry} {schema : Value}

theorem empty (policy : CachePolicy) : (Registry.empty policy).FilesRegular where
  cache _ _ hfound := absurd hfound nofun
  editors _ _ _ _ hstate := absurd hstate nofun

theorem setEditor (h : registry.FilesRegular) (path : Path) {state : EditorState}
    (hstate : ∀ descriptor schema, state.descriptor = some descriptor →
      descriptor.schema = some schema → schema.Regular) :
    (registry.setEditor path state).FilesRegular where
  cache := h.cache
  editors other found descriptor schema hfound hmounted hschema := by
    rw [Registry.editor?_setEditor] at hfound
    split at hfound
    · obtain rfl := Option.some.inj hfound
      exact hstate descriptor schema hmounted hschema
    · exact h.editors other found descriptor schema hfound hmounted hschema

theorem dropUnder (h : registry.FilesRegular) (path : Path) :
    (registry.dropUnder path).FilesRegular where
  cache other schema hschema := by
    rw [Registry.dropUnder, Registry.peek?_dropWhere, Option.ite_none_left_eq_some] at hschema
    exact h.cache other schema hschema.2
  editors other state descriptor schema hstate := by
    rw [Registry.dropUnder, Registry.editor?_dropWhere, Option.ite_none_left_eq_some] at hstate
    exact h.editors other state descriptor schema hstate.2

theorem seed (h : registry.FilesRegular) (path : Path) (hschema : schema.Regular) :
    Registry.FilesRegular { registry with cache := registry.cache.seed path schema } where
  cache other found hfound := by
    rw [Render.peek?_seed_key] at hfound
    split at hfound
    · cases hpeek : registry.cache.peek? other with
      | none =>
        rw [hpeek] at hfound
        exact Option.some.inj hfound ▸ hschema
      | some filed =>
        rw [hpeek] at hfound
        exact Option.some.inj hfound ▸ h.cache other filed hpeek
    · exact h.cache other found hfound
  editors := h.editors

end Registry.FilesRegular

/-- The schema that a subject has at hand is regular. -/
def Subject.IsRegular : Subject → Prop
  | .object schema _ => schema.Regular
  | .block _ _ => True

namespace Render

open Value (Regular)
open Widget (Addressed EditMembers EditElements)

variable {α : Type} {Q Q' : α → Prop} {R : Registry → Registry → Prop} {renderer : Renderer α}
  {view : View} {room : Nat} {path : Path} {schema root fragment : Value} {shape : ObjectShape}

/-! ## Renderings over regular registries -/

/-- **What a rendering shows over a regular registry**, leaving a regular one. -/
abbrev Shows (Q : α → Prop) (renderer : Renderer α) : Prop :=
  Respects (fun a b => a = b ∧ a.FilesRegular) Q renderer

/-- What a rendering shows whatever the registry, it also shows where it respects a relation. -/
theorem respects_and (h : Respects R Q renderer)
    (halways : ∀ registry, Q' (renderer.run registry).1) :
    Respects R (fun a => Q a ∧ Q' a) renderer := fun a b hrelated =>
  have hcoincide := h a b hrelated
  ⟨hcoincide.same, hcoincide.related, hcoincide.good, halways a⟩

theorem shows_currentEditor (request : ModuleRequest) :
    Shows (fun _ => True) (currentEditor view request) := by
  rintro registry _ ⟨rfl, hregistry⟩
  rcases hcurrent : (currentEditor view request).run registry with ⟨state, dropped⟩
  refine ⟨rfl, ⟨rfl, ?_⟩, trivial⟩
  rcases currentEditor_cases hcurrent with ⟨rfl, -⟩ | ⟨rfl, -⟩
  · exact hregistry
  · exact hregistry.dropUnder request.path

theorem shows_schemaFor {request : ModuleRequest} (hsubject : request.subject.IsRegular) :
    Shows (fun found => ∀ schema, found = some schema → Regular schema) (schemaFor request) := by
  rintro registry _ ⟨rfl, hregistry⟩
  obtain ⟨title, path, subject, removable⟩ := request
  cases subject with
  | object schema isItem =>
    have hfiled := hregistry.seed path hsubject
    exact ⟨rfl, ⟨rfl, hfiled⟩, hfiled.cache path⟩
  | block category given => exact ⟨rfl, ⟨rfl, hregistry⟩, hregistry.cache path⟩

/-! ## Forms -/

/-- **The fragments by which the fields of a module are rendered are regular.** -/
theorem regular_of_mem_fieldSchemas (hschema : Regular schema)
    (hclass : Node.classify (target? view.maxRefDepth schema schema) = .object shape)
    {hidden : List String} {found : Option Value} {entry : String × Value}
    (hentry : entry ∈ fieldSchemas shape hidden found) : Regular entry.2 := by
  obtain ⟨keywords, hkeywords, rfl⟩ := exists_keywords hschema hclass
  rcases List.mem_append.mp hentry with hdeclared | hundeclared
  · exact Schema.regular_propertiesOf hkeywords entry (List.mem_filter.mp hdeclared).1
  · obtain ⟨-, ⟨value, -, hinfer⟩ | htyped⟩ := mem_undeclared hundeclared
    · exact hinfer ▸ Schema.regular_infer value
    · exact Schema.regular_additionalOf hkeywords htyped

/-- **The fields of a module edit the members of its value**, or one field the value itself. -/
theorem editMembers_fields (hdocument : Regular view.document) (hschema : Regular schema)
    (path : Path) (hidden : List String) (registry : Registry) :
    EditMembers path ((fields view (field view room) schema path hidden).run registry).1.1 := by
  by_cases hclass : ∃ shape,
      Node.classify (target? view.maxRefDepth schema schema) = .object shape
  · obtain ⟨shape, hshape⟩ := hclass
    obtain ⟨hmembers, -⟩ := run_fields_object path hshape room hidden registry
    -- The keys are those of the fragments, however the fields came out.
    refine .inr ⟨?_, fun member hmember => ?_⟩
    · have hkeys := congrArg (List.map Prod.fst) hmembers
      simp only [List.map_map, Function.comp_def] at hkeys
      rw [hkeys]
      exact nodup_fieldSchemas hschema hshape fun value hvalue => regular_read? hdocument hvalue
    · have hpair := List.mem_map_of_mem (f := fun m : String × Widget => (m.1, m.2.path)) hmember
      rw [hmembers] at hpair
      obtain ⟨entry, -, hentry⟩ := List.mem_map.mp hpair
      obtain ⟨hkey, hpath⟩ := Prod.mk.inj hentry
      rw [← hpath, hkey]
  · have hvalue := run_fields_other path (fun shape hshape => hclass ⟨shape, hshape⟩) room hidden
      registry
    obtain ⟨⟨key, value⟩, honly, hmember⟩ := List.map_eq_singleton_iff.mp hvalue
    obtain ⟨rfl, hpath⟩ := Prod.mk.inj hmember
    exact .inl ⟨value, honly, hpath⟩

/-! ## Controls -/

theorem addressed_leaf {widget : Widget} (hnodes : widget.nodes = [widget])
    (h : widget.Addresses) : Addressed widget := Widget.every_leaf hnodes h

theorem addressed_scalar (kind : Primitive) (options : Option (List String)) (path : Path)
    (value : Option Value) : Addressed (scalar kind options path value) := by
  cases kind <;> cases options <;> exact addressed_leaf rfl trivial

/-- Widgets at the paths of elements are those of a list. -/
theorem editElements_of_map_path {items : List Widget} {n : Nat}
    (h : items.map Widget.path = (List.range n).map path.item) : EditElements path items := by
  have hlength : items.length = n := by simpa using congrArg List.length h
  rw [EditElements, h, hlength]

section

variable (hdocument : Regular view.document)
  (hnext : ∀ key fragment root path, Regular fragment → Regular root →
    Shows Addressed (field view room key fragment root path))

include hdocument hnext

theorem shows_fields (hschema : Regular schema) (path : Path) (hidden : List String) :
    Shows (fun body => (∀ member ∈ body.1, Addressed member.2) ∧ EditMembers path body.1)
      (fields view (field view room) schema path hidden) := by
  refine respects_and ?_ (editMembers_fields hdocument hschema path hidden)
  unfold fields
  split
  · rename_i shape hclass
    have hmember : ∀ entry ∈ fieldSchemas shape hidden (Document.read? view.document path),
        Shows (fun member : String × Widget => Addressed member.2) (do
          return (entry.1, ← field view room entry.1 entry.2 schema (path.child entry.1))) := by
      intro entry hentry
      have hregular : Regular entry.2 := regular_of_mem_fieldSchemas hschema hclass hentry
      exact respects_bind (hnext _ _ _ _ hregular hschema) fun widget hwidget =>
        respects_pure hwidget
    exact respects_bind (respects_mapM _ hmember) fun members hmembers => respects_pure hmembers
  · refine respects_bind (hnext _ _ _ _ hschema hschema) fun widget hwidget => respects_pure ?_
    exact List.forall_mem_singleton.mpr hwidget

/-- **A module addresses what is inside it**, if its fields do. -/
theorem shows_module {request : ModuleRequest} (hsubject : request.subject.IsRegular) :
    Shows Addressed (module view (field view room) request) := by
  unfold module
  refine respects_bind (shows_currentEditor request) fun state _ => ?_
  split
  · exact respects_pure (addressed_leaf rfl trivial)
  · refine respects_bind (shows_schemaFor hsubject) fun schema hschema => ?_
    split
    · rename_i host
      refine respects_bind (shows_fields hdocument hnext (hschema host rfl) _ _)
        fun body hbody => respects_pure ?_
      exact Widget.every_form.mpr ⟨hbody.2, hbody.1⟩
    · rintro registry _ ⟨rfl, hregistry⟩
      exact ⟨rfl, ⟨rfl, hregistry⟩, addressed_leaf rfl trivial⟩

theorem shows_itemModules (key : String) (path : Path) {subject : Subject}
    (hsubject : subject.IsRegular) :
    Shows (fun items => (∀ item ∈ items, Addressed item) ∧ EditElements path items)
      (itemModules view (field view room) key path subject) :=
  respects_and (respects_itemModules (fun _ _ => shows_module hdocument hnext hsubject) key)
    fun registry => editElements_of_map_path (map_path_itemModules subject registry)

/-- **A list addresses its items**, if their fields do. -/
theorem shows_array (key : String) {items : Option Value} (hitems : Regular (items.getD .null))
    (hroot : Regular root) (path : Path) :
    Shows Addressed (array view (field view room) key items root path) := by
  have hmodules {subject : Subject} (hsubject : subject.IsRegular) :=
    shows_itemModules hdocument hnext key path hsubject
  unfold array
  dsimp only
  split
  · refine respects_bind (hmodules trivial) fun modules hmodules => respects_pure ?_
    exact (Widget.every_list rfl).mpr ⟨hmodules.2, hmodules.1⟩
  · refine respects_pure ((Widget.every_list rfl).mpr ⟨?_, fun item hitem => ?_⟩)
    · refine editElements_of_map_path (n := itemCount view path) ?_
      rw [List.map_map]
      exact List.map_congr_left fun i _ => path_scalar _ _ _ _
    · obtain ⟨i, -, rfl⟩ := List.mem_map.mp hitem
      exact addressed_scalar _ _ _ _
  · rename_i shape hshape
    obtain ⟨members, hmembers, -⟩ := Schema.classify_object hshape
    rw [hmembers] at hshape ⊢
    have hnested := Schema.regular_nested hroot hitems (resolve_of_target? hmembers) hshape
    refine respects_bind (hmodules hnested) fun modules hmodules => respects_pure ?_
    exact (Widget.every_list rfl).mpr ⟨hmodules.2, hmodules.1⟩
  · exact respects_pure (addressed_leaf rfl trivial)
  · exact respects_pure (addressed_leaf rfl trivial)

theorem shows_openField (key : String) (hfragment : Regular fragment) (hroot : Regular root)
    (path : Path) :
    Shows Addressed (openField view (field view room) key fragment root path) := by
  unfold openField
  dsimp only
  split
  · exact respects_pure (addressed_leaf rfl trivial)
  · rename_i resolved hresolved
    split
    · rename_i items hitems
      have htarget : target? view.maxRefDepth root fragment = resolved := by
        rw [target?, hresolved]
        rfl
      exact shows_array hdocument hnext key
        (regular_items hroot hfragment (htarget ▸ hitems)) hroot path
    · split
      · exact respects_pure (addressed_leaf rfl trivial)
      · rename_i category _ _
        have hblock : Shows (fun block => Addressed block ∧ block.path = path)
            (module view (field view room) ⟨some key, path, .block category none, true⟩) :=
          respects_and (shows_module hdocument hnext trivial) (path_module _)
        refine respects_bind hblock fun block hgood => respects_pure ?_
        exact Widget.every_filledSlot.mpr ⟨hgood.2, hgood.1⟩
    · rename_i shape hshape
      obtain ⟨members, rfl, -⟩ := Schema.classify_object hshape
      exact shows_module hdocument hnext (Schema.regular_nested hroot hfragment hresolved hshape)
    · exact respects_pure (addressed_scalar _ _ _ _)
    · exact respects_pure (addressed_leaf rfl trivial)

end

/-- **Every field addresses what is inside it**, whatever levels are left. -/
theorem shows_field (hdocument : Regular view.document) (room : Nat) (key : String)
    (fragment root : Value) (path : Path) (hfragment : Regular fragment) (hroot : Regular root) :
    Shows Addressed (field view room key fragment root path) := by
  induction room generalizing key fragment root path with
  | zero => exact respects_pure (addressed_leaf rfl trivial)
  | succ room ih => exact shows_openField hdocument ih key hfragment hroot path

end Render

namespace Session

open Render

/-- **The values that a session holds are regular.** -/
structure HoldsRegular (session : Session) : Prop where
  document : session.store.document.Regular
  registry : session.registry.FilesRegular

/-- What an editor shows is regular. -/
theorem HoldsRegular.subject {session : Session} (h : session.HoldsRegular) (path : Path) :
    (session.moduleOf path).subject.IsRegular := by
  change (subjectOf (((session.editor? path).bind EditorState.descriptor).getD .unknown)).IsRegular
  cases hdescriptor : (session.editor? path).bind EditorState.descriptor with
  | none => exact (by decide : Schema.freeForm.Regular)
  | some descriptor =>
    obtain ⟨state, hstate, hmounted⟩ := Option.bind_eq_some_iff.mp hdescriptor
    rw [Option.getD_some]
    unfold subjectOf
    split
    · rename_i schema hschema
      exact h.registry.editors path state descriptor schema hstate hmounted hschema
    · exact trivial
    · exact trivial
    · exact (by decide : Schema.freeForm.Regular)

/-- **Rendered trees address the document.**  An editor and a field are shown, at the paths that they
are asked for, by trees in which each widget edits the value of the one around it or a part of it, and
none the same as one beside it.  So all widgets for a value are on one way down the tree, a search for
its path finds the topmost of them, and it finds nothing only if there is none. -/
theorem rendered_trees_are_navigable (session : Session) (h : session.HoldsRegular) :
    (∀ path, (session.render path).1.path = path ∧ (session.render path).1.Navigable ∧
      (session.render path).2.HoldsRegular) ∧
    ∀ depth key fragment root path, fragment.Regular → root.Regular →
      let tree := ((session.fieldAt depth key fragment root path).run session.registry).1
      tree.path = path ∧ tree.Navigable := by
  have hdocument : session.view.document.Regular := h.document
  refine ⟨fun path => ?_, fun depth key fragment root path hfragment hroot => ?_⟩
  · have hfields := shows_field hdocument (roomAt session.config.maxRenderDepth 0)
    have hshows := shows_module hdocument hfields (h.subject path) session.registry _
      ⟨rfl, h.registry⟩
    exact ⟨path_module _ _, hshows.good.navigable, h.document, hshows.related.2⟩
  · have hshows := shows_field hdocument (roomAt session.config.maxRenderDepth depth) key fragment
      root path hfragment hroot session.registry _ ⟨rfl, h.registry⟩
    exact ⟨path_field _ _ _ _ _ _, hshows.good.navigable⟩

/-- The schema of an object with the place of a block, and with a sequence of objects. -/
def blockSchema : Value :=
  .obj [("type", .str "object"), ("properties", .obj [
    ("start", .obj [("x-block-type", .str "trigger")]),
    ("rules", .obj [("type", .str "array"), ("items", .obj [("type", .str "object"),
      ("properties", .obj [("name", .obj [("type", .str "string")])])])])])]

/-- A session over such an object, with a block and with two elements. -/
def blockSession : Session :=
  (ofDocument Config.default (.obj [("root", .obj [
    ("start", .obj [("trigger", .str "clockTrigger")]),
    ("rules", .arr [.obj [("name", .str "first")], .obj [("name", .str "last")]])])])).setEditor
      Path.root { EditorState.initial with descriptor := some (.inline blockSchema) }

theorem holdsRegular_blockSession : blockSession.HoldsRegular where
  document := by decide
  registry := by
    refine (Registry.FilesRegular.empty Config.default.policy).setEditor Path.root ?_
    rintro descriptor schema hmounted hschema
    obtain rfl := Option.some.inj hmounted
    exact Option.some.inj hschema ▸ (by decide : blockSchema.Regular)

/-- A slot and the block in it have one path, at which the slot is found; the name of an element is
found, and what names the block is not, since no widget edits it.  The same schema as that of a field
gives such a tree. -/
theorem rendered_trees_are_navigable_blocks :
    let tree := (blockSession.render Path.root).1
    let start := Path.root.child "start"
    let name := ((Path.root.child "rules").item 1).child "name"
    let field := blockSession.fieldAt 1 "root" blockSchema blockSchema Path.root
    (field.run blockSession.registry).1.Navigable ∧ tree.path = Path.root ∧ tree.Navigable ∧
      (∃ slot, tree.find? start = some slot ∧ slot.kindName = "block-slot" ∧
        tree.Topmost start slot) ∧
      (tree.at? [0, 0]).map Widget.kindName = some "module" ∧
      (tree.at? [0, 0]).map Widget.path = some start ∧
      (tree.find? name).map Widget.kindName = some "text" ∧
      ∀ node ∈ tree.nodes, node.path ≠ start.child "trigger" := by
  intro tree start name field
  have hschema : blockSchema.Regular := by decide
  obtain ⟨hrender, hfield⟩ := rendered_trees_are_navigable blockSession holdsRegular_blockSession
  obtain ⟨hpath, hnavigable, -⟩ := hrender Path.root
  obtain ⟨-, hinside⟩ := hfield 1 "root" blockSchema blockSchema Path.root hschema hschema
  have hslot : ∃ slot, tree.find? start = some slot ∧ slot.kindName = "block-slot" :=
    ⟨_, rfl, rfl⟩
  obtain ⟨slot, hfind, hkind⟩ := hslot
  have hmissing : tree.find? (start.child "trigger") = none :=
    Option.isNone_iff_eq_none.mp (by decide +kernel)
  exact ⟨hinside, hpath, hnavigable, ⟨slot, hfind, hkind, (hnavigable.find start slot).mp hfind⟩,
    rfl, rfl, by decide +kernel, (hnavigable.missing _).mp hmissing⟩

end Session

end SchemaForms
