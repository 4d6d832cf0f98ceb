import SchemaForms.Proofs.Render.Nesting
import SchemaForms.Proofs.Render.Opening
import SchemaForms.Proofs.Session.RefusedKeys

/-!
# Proofs/Session/ShownKeys — whether a key that was added is shown

A key that was added has its value at once, and its module keeps the members that it had.  Whether the
next rendering shows a field for it is another matter: the key is declared in the schema that is filed,
and what is rendered is what this schema stands for.  `shownAt_fields` says which keys the fields of a
schema show, and `added_keys_are_shown` when a key that was added is one of them.
-/

namespace SchemaForms

open Schema (Node ObjectShape)
open Value (Regular)

/-! ## The fields of a key -/

/-- The paths of the fields that a module shows for a key. -/
def Widget.shownAt (key : String) : Widget → List Path
  | .form _ fields _ => (fields.filter fun field => field.1 == key).map (·.2.path)
  | _ => []

namespace Render

variable {view : View} {schema : Value} {path : Path} {key : String} {shape : ObjectShape}
  {hidden : List String} {found : Option Value}

/-- **A schema takes a key**: what it stands for is an object that declares the key, or takes any. -/
def Takes (maxDepth : Nat) (schema : Value) (key : String) : Prop :=
  ∃ shape, Node.classify (target? maxDepth schema schema) = .object shape ∧
    (Table.contains shape.properties key = true ∨ shape.additional ≠ .forbidden)

theorem mem_undeclared_iff : key ∈ (undeclared shape hidden found).map (·.1) ↔
    shape.additional ≠ .forbidden ∧ Table.contains shape.properties key = false ∧ key ∉ hidden ∧
      key ∈ Table.keys ((found.bind Value.asMembers?).getD []) := by
  have hextra : key ∈ ((((found.bind Value.asMembers?).getD []).filter fun member =>
      !Table.contains shape.properties member.1 && !hidden.contains member.1).map (·.1)) ↔
      Table.contains shape.properties key = false ∧ key ∉ hidden ∧
        key ∈ Table.keys ((found.bind Value.asMembers?).getD []) := by
    simp only [List.mem_map, List.mem_filter, Table.keys]
    grind
  unfold undeclared
  split
  · rename_i hforbidden
    simp [hforbidden]
  · rename_i hany
    rw [List.map_map, hany]
    exact hextra.trans (by simp)
  · rename_i fragment htyped
    rw [List.map_map, htyped]
    exact hextra.trans (by simp)

/-- **Which keys have a field**: those that are not hidden and declared, or taken by an object that is
open to them and there. -/
theorem mem_fieldSchemas_iff : key ∈ (fieldSchemas shape hidden found).map (·.1) ↔
    key ∉ hidden ∧ (Table.contains shape.properties key = true ∨ shape.additional ≠ .forbidden ∧
      key ∈ Table.keys ((found.bind Value.asMembers?).getD [])) := by
  have hdeclared : key ∈ (shape.properties.filter fun property =>
      !hidden.contains property.1).map (·.1) ↔
      key ∉ hidden ∧ Table.contains shape.properties key = true := by
    rw [Table.contains_eq_true_iff]
    simp only [List.mem_map, List.mem_filter, Table.keys]
    grind
  rw [fieldSchemas, List.map_append, List.mem_append, hdeclared, mem_undeclared_iff]
  cases Table.contains shape.properties key <;> grind

/-- Only the editor of a block is stale. -/
theorem exists_block_of_stale {request : ModuleRequest} {state : Option EditorState}
    (h : isStaleFor view request state = true) :
    ∃ category given, request.subject = .block category given := by
  unfold isStaleFor at h
  split at h
  · split at h
    · rename_i category given hsubject
      exact ⟨category, given, hsubject⟩
    · cases h
  · cases h

/-- What a form shows for a key depends on the keys and the paths of its fields only. -/
theorem shownAt_form (head : ModuleHead) (members : List (String × Widget)) (isOpen : Bool) :
    (Widget.form head members isOpen).shownAt key
      = ((members.map fun member => (member.1, member.2.path)).filter fun pair =>
        pair.1 == key).map (·.2) := by
  rw [Widget.shownAt, List.filter_map, List.map_map]
  rfl

/-- **The fields of a schema show a key of their value once, if they show it**, and no other field goes
by its name.  They show it exactly if the schema takes it and it is not hidden. -/
theorem shownAt_fields (hschema : Regular schema) (room : Nat) (head : ModuleHead)
    {members : List (String × Value)} (hfound : Document.read? view.document path = some (.obj members))
    (hmembers : Regular (.obj members)) (hkey : key ∈ Table.keys members) (registry : Registry) :
    let body := ((fields view (field view room) schema path hidden).run registry).1
    (Widget.form head body.1 body.2).shownAt key = [path.child key] ↔
      key ∉ hidden ∧ Takes view.maxRefDepth schema key := by
  intro body
  rw [shownAt_form]
  by_cases hclass : ∃ shape, Node.classify (target? view.maxRefDepth schema schema) = .object shape
  · obtain ⟨shape, hshape⟩ := hclass
    let keys := (fieldSchemas shape hidden (Document.read? view.document path)).map (·.1)
    have hnodup : keys.Nodup := nodup_fieldSchemas hschema hshape fun value hvalue =>
      Option.some.inj (hfound.symm.trans hvalue) ▸ hmembers
    have htakes : Takes view.maxRefDepth schema key ↔
        Table.contains shape.properties key = true ∨ shape.additional ≠ .forbidden := by
      refine ⟨?_, fun h => ⟨shape, hshape, h⟩⟩
      rintro ⟨other, hother, h⟩
      exact Node.object.inj (hother.symm.trans hshape) ▸ h
    have hmem : key ∈ keys ↔ key ∉ hidden ∧ Takes view.maxRefDepth schema key := by
      rw [mem_fieldSchemas_iff, htakes, hfound]
      simp [Value.asMembers?, hkey]
    have hpairs : body.1.map (fun member => (member.1, member.2.path))
        = keys.map fun other => (other, path.child other) :=
      (run_fields_object path hshape room hidden registry).1.trans (by simp [keys])
    have hshown : ((keys.map fun other => (other, path.child other)).filter fun pair =>
        pair.1 == key).map (·.2) = (keys.filter (· == key)).map path.child := by
      rw [List.filter_map, List.map_map]
      rfl
    rw [hpairs, hshown, List.filter_beq, hnodup.count, ← hmem]
    by_cases hlisted : key ∈ keys <;> simp [hlisted]
  · have hother : ∀ shape, Node.classify (target? view.maxRefDepth schema schema) ≠ .object shape :=
      fun shape hshape => hclass ⟨shape, hshape⟩
    rw [run_fields_other path hother room hidden registry]
    refine iff_of_false (fun hshown => ?_) ?_
    · -- the one field edits the value itself, and not what is below it
      have hpath := congrArg (List.map List.length) hshown
      rw [List.filter_cons] at hpath
      split at hpath <;> simp [Path.child] at hpath
    · rintro ⟨-, shape, hshape, -⟩
      exact hother shape hshape

end Render

namespace Session

open Render (Takes isStaleFor hiddenKeys)

variable {session : Session} {path : Path} {key : String} {kind : Primitive} {schema : Value}

/-! ## What is declared -/

theorem keywordsOf_declare (schema : Value) (key : String) (kind : Primitive) :
    Schema.keywordsOf (declare schema key kind) = Table.insert (Schema.keywordsOf schema) "properties"
      (.obj (Table.insert (Schema.propertiesOf (Schema.keywordsOf schema)) key
        (Schema.ofPrimitive kind))) := by
  rw [Schema.propertiesOf, Schema.get?_keywordsOf]
  rfl

/-- A declaration leaves the other keywords alone. -/
theorem get?_keywordsOf_declare (schema : Value) (key : String) (kind : Primitive) {keyword : String}
    (h : keyword ≠ "properties") : Table.get? (Schema.keywordsOf (declare schema key kind)) keyword
      = Table.get? (Schema.keywordsOf schema) keyword := by
  rw [keywordsOf_declare, Table.get?_insert, if_neg (Ne.symm h)]

theorem propertiesOf_declare (schema : Value) (key : String) (kind : Primitive) :
    Schema.propertiesOf (Schema.keywordsOf (declare schema key kind))
      = Table.insert (Schema.propertiesOf (Schema.keywordsOf schema)) key
        (Schema.ofPrimitive kind) := by
  rw [keywordsOf_declare, Schema.propertiesOf, Table.get?_insert, if_pos rfl]
  rfl

/-- **A schema that is no reference takes the keys that are declared in it**, unless it states that it
is no object, or is the place of a block. -/
theorem takes_declare_iff (hdirect : Schema.reference? schema = none) (maxDepth : Nat) :
    Takes maxDepth (declare schema key kind) key ↔
      (∀ tag, Schema.statedType? (schema.member? "type") = some tag → tag = "object") ∧
        Schema.categoryOf (Schema.keywordsOf schema) = none := by
  let members := Schema.keywordsOf (declare schema key kind)
  have hmembers : declare schema key kind = .obj members := rfl
  have hdirect : Schema.reference? (declare schema key kind) = none := by
    rw [← hdirect, Schema.reference?, Schema.reference?, ← Schema.get?_keywordsOf,
      ← Schema.get?_keywordsOf, get?_keywordsOf_declare schema key kind (by decide)]
  have hcontains : Table.contains (Schema.propertiesOf members) key = true := by
    rw [propertiesOf_declare, Table.contains, Table.get?_insert, if_pos rfl]
    rfl
  have hproperties : Schema.propertiesOf members ≠ [] := by
    intro hnil
    rw [hnil] at hcontains
    cases hcontains
  have hcategory : Schema.categoryOf members = Schema.categoryOf (Schema.keywordsOf schema) := by
    rw [Schema.categoryOf, Schema.categoryOf, get?_keywordsOf_declare schema key kind (by decide)]
  have htype : Table.get? members "type" = schema.member? "type" := by
    rw [get?_keywordsOf_declare schema key kind (by decide), Schema.get?_keywordsOf]
  rw [Takes, Render.target?_of_direct hdirect, hmembers]
  simp only [Schema.classify_eq_object_iff hproperties, hcategory, htype]
  constructor
  · rintro ⟨shape, ⟨hobject, hunmarked, rfl⟩, -⟩
    exact ⟨hobject, hunmarked⟩
  · rintro ⟨hobject, hunmarked⟩
    exact ⟨_, ⟨hobject, hunmarked, rfl⟩, .inl hcontains⟩

theorem regular_default (kind : Primitive) : Regular kind.default := by cases kind <;> rfl

theorem regular_declare (h : Regular schema) (key : String) (kind : Primitive) :
    Regular (declare schema key kind) := by
  have hkeywords := Schema.regular_keywordsOf h
  have hproperties : Regular (.obj (Schema.propertiesOf (Schema.keywordsOf schema))) :=
    Value.regular_obj.mpr
      ⟨Schema.distinct_propertiesOf hkeywords, Schema.regular_propertiesOf hkeywords⟩
  have hproperty : Regular (Schema.ofPrimitive kind) := by cases kind <;> decide
  have hdeclared := hkeywords.insert "properties" (hproperties.insert key hproperty)
  rwa [← keywordsOf_declare] at hdeclared

/-! ## What is rendered -/

/-- **A rendering drops what is filed for a module**: its editor was mounted for another block than the
one that the document holds. -/
def Outdated (session : Session) (path : Path) : Prop :=
  isStaleFor session.view (session.moduleOf path) (session.editor? path) = true ∧
    path <+: Path.parse path.key

instance (session : Session) (path : Path) : Decidable (session.Outdated path) :=
  inferInstanceAs (Decidable (_ ∧ _))

/-- **A module is shown by the schema that is filed for it**, unless the rendering drops it. -/
theorem render_of_filed (hfiled : session.registry.cache.peek? path = some schema)
    (hmode : (session.editorAt path).mode = .structured) :
    if session.Outdated path then ∃ head loading, (session.render path).1 = .pending head loading
    else ∃ head registry, (session.render path).1 =
      let body := ((Render.fields session.view (session.fieldAt 0) schema path
        (hiddenKeys (session.moduleOf path).subject)).run registry).1
      .form head body.1 body.2 := by
  let module := session.moduleOf path
  change if session.Outdated path then
      ∃ head loading, ((Render.module session.view (session.fieldAt 0) module).run
        session.registry).1 = .pending head loading
    else ∃ head registry, ((Render.module session.view (session.fieldAt 0) module).run
      session.registry).1 = _
  by_cases hstale : isStaleFor session.view module (session.editor? path) = true
  · have hcurrent : (Render.currentEditor session.view module).run session.registry
        = (none, session.registry.dropUnder path) :=
      (Render.run_currentEditor_eq _ _ _).trans (if_pos hstale)
    have hpeek := Registry.peek?_dropWhere session.registry (fun p => Path.startsWith p path) path
    split
    · rename_i houtdated
      rw [if_pos (Path.startsWith_iff.mpr houtdated.2)] at hpeek
      obtain ⟨category, given, hsubject⟩ := Render.exists_block_of_stale hstale
      have hschema := Render.run_schemaFor_block hsubject (session.registry.dropUnder path)
      rw [show (session.registry.dropUnder path).cache.peek? module.path = none from hpeek] at hschema
      rw [Render.run_module_pending hcurrent rfl hschema]
      exact ⟨_, _, rfl⟩
    · rename_i hkept
      rw [if_neg fun hback => hkept ⟨hstale, Path.startsWith_iff.mp hback⟩, hfiled] at hpeek
      rw [Render.run_module_form hcurrent rfl (Render.run_schemaFor_of_peek? hpeek)]
      exact ⟨_, _, rfl⟩
  · have hcurrent : (Render.currentEditor session.view module).run session.registry
        = (session.editor? path, session.registry) :=
      (Render.run_currentEditor_eq _ _ _).trans (if_neg hstale)
    have hform : (session.editor? path).bind EditorState.shownText? = none := by
      unfold editorAt at hmode
      cases hstate : session.editor? path with
      | none => rfl
      | some state =>
        rw [hstate, Option.getD_some] at hmode
        rw [Option.bind_some, EditorState.shownText?, hmode]
    rw [if_neg fun houtdated => hstale houtdated.1,
      Render.run_module_form hcurrent hform (Render.run_schemaFor_of_peek? hfiled)]
    exact ⟨_, _, rfl⟩

/-- **What the rendering of a module shows for a key of its value**: one field, if the module is kept
and takes the key, and the key is not hidden; and otherwise none at the place of the key. -/
theorem shownAt_render {members : List (String × Value)} (hschema : Regular schema)
    (hfiled : session.registry.cache.peek? path = some schema)
    (hmode : (session.editorAt path).mode = .structured)
    (hvalue : session.value? path = some (.obj members)) (hmembers : Regular (.obj members))
    (hkey : key ∈ Table.keys members) :
    (session.render path).1.shownAt key = [path.child key] ↔
      ¬ session.Outdated path ∧ key ∉ hiddenKeys (session.moduleOf path).subject ∧
        Takes session.config.maxRefDepth schema key := by
  have hrender := render_of_filed hfiled hmode
  split at hrender
  · rename_i houtdated
    obtain ⟨head, loading, hpending⟩ := hrender
    rw [hpending]
    exact iff_of_false nofun fun h => h.1 houtdated
  · rename_i hkept
    obtain ⟨head, registry, hform⟩ := hrender
    have hread : Document.read? session.view.document path = some (.obj members) := hvalue
    rw [hform, and_iff_right hkept]
    exact Render.shownAt_fields hschema (Render.roomAt session.config.maxRenderDepth 0) head hread
      hmembers hkey registry

/-- **A key that was added is shown, if and only if its module takes it.**  Its value is there at once,
and the members that the module had stay as they were; where there was no object, one is made.  The
next rendering shows one field for the key unless it drops what is filed for the module, or the key is
hidden in a block, or the schema that declares the key by now stands for something that does not take
it.  A schema that is no reference stands for itself: it takes every key, unless it states that it is no
object, or is the place of a block. -/
theorem added_keys_are_shown (session : Session) (path : Path) (key : String) (kind : Primitive)
    (hdocument : Regular session.store.document) (hschema : Regular (session.ownSchema path))
    (hmode : (session.editorAt path).mode = .structured)
    (hadded : (session.addProperty path key kind).2 = .ok ()) :
    let next := (session.addProperty path key kind).1
    let declared := declare (session.ownSchema path) (added key) kind
    next.value? (path.child (added key)) = some kind.default ∧
    next.value? path = some (.obj (((session.value? path).bind Value.asMembers?).getD []
      ++ [(added key, kind.default)])) ∧
    ((next.render path).1.shownAt (added key) = [path.child (added key)] ↔
      ¬ next.Outdated path ∧ added key ∉ hiddenKeys (session.moduleOf path).subject ∧
        Takes session.config.maxRefDepth declared (added key)) ∧
    (Schema.reference? (session.ownSchema path) = none →
      (Takes session.config.maxRefDepth declared (added key) ↔
        (∀ tag, Schema.statedType? ((session.ownSchema path).member? "type") = some tag →
          tag = "object") ∧
        Schema.categoryOf (Schema.keywordsOf (session.ownSchema path)) = none)) := by
  intro next declared
  obtain ⟨hmissing, hnext⟩ := adding_of_ok hadded
  replace hnext : next = session.adding path key kind := hnext
  clear_value next
  subst hnext
  have hvalue : (session.adding path key kind).value? path
      = some (.obj (((session.value? path).bind Value.asMembers?).getD []
        ++ [(added key, kind.default)])) := Document.read?_write_child hmissing kind.default
  refine ⟨Document.read?_write_self _ _ _, hvalue, ?_, fun hdirect => takes_declare_iff hdirect _⟩
  have hnew : added key ∉ Table.keys (((session.value? path).bind Value.asMembers?).getD []) :=
    Document.not_mem_keys_of_read? hmissing
  have hold : Regular (.obj (((session.value? path).bind Value.asMembers?).getD [])) := by
    cases hfound : session.value? path with
    | none => rfl
    | some found => exact Schema.regular_keywordsOf (Render.regular_read? hdocument hfound)
  have hmembers := hold.insert (added key) (regular_default kind)
  rw [Table.insert_of_not_mem hnew] at hmembers
  have hlisted : added key ∈ Table.keys (((session.value? path).bind Value.asMembers?).getD []
      ++ [(added key, kind.default)]) := by simp [Table.keys]
  have hfiled : (session.adding path key kind).registry.cache.peek? path = some declared :=
    (Cache.peek?_set _ _ _ _).trans (if_pos rfl)
  exact shownAt_render (regular_declare hschema (added key) kind) hfiled hmode hvalue hmembers hlisted

/-- An object that takes no other keys is shown with one that was added all the same. -/
theorem added_keys_are_shown_closed :
    let path := Path.root.child "trigger"
    let schema : Value := .obj [("type", .str "object"), ("properties", .null),
      ("additionalProperties", .bool false)]
    let session := (ofDocument .default (.obj [("root", .obj [("trigger", .obj [("id", .null)])])]))
      |>.setCache ((Cache.empty .reuse).set path schema)
    let next := (session.addProperty path " owner " .string).1
    session.ownSchema path = schema ∧
      (session.addProperty path " owner " .string).2 = .ok () ∧
      next.value? path = some (.obj [("id", .null), ("owner", .str "")]) ∧
      (next.render path).1.shownAt "owner" = [path.child "owner"] := by
  intro path schema session next
  have hadded : (session.addProperty path " owner " .string).2 = .ok () := by rfl
  obtain ⟨-, hvalue, hshown, htakes⟩ := added_keys_are_shown session path " owner " .string
    (by decide +kernel) (by decide +kernel) (by decide +kernel) hadded
  refine ⟨by decide +kernel, hadded, hvalue, hshown.mpr ⟨by decide +kernel, by decide +kernel, ?_⟩⟩
  exact (htakes (by decide +kernel)).mpr ⟨by decide +kernel, by decide +kernel⟩

/-- **A key that was added to a reference is not shown**: what is rendered is what the reference leads
to. -/
theorem added_keys_stay_hidden :
    let path := Path.root.child "trigger"
    let main : Value := .obj [("type", .str "object"),
      ("properties", .obj [("entity", .obj [("type", .str "string")])])]
    let schema : Value := .obj [("$ref", .str "#/definitions/main"),
      ("definitions", .obj [("main", main)])]
    let session := ((Mounts.start .default (.obj [("root", .obj [("trigger", .obj [])])])).run
      [.mount path ⟨none, none, some schema⟩]).session
    let next := (session.addProperty path "owner" .string).1
    session.registry.cache.peek? path = some schema ∧
      (session.editorAt path).mode = .structured ∧
      (session.addProperty path "owner" .string).2 = .ok () ∧
      next.value? (path.child "owner") = some (.str "") ∧
      (next.render path).1.shownAt "entity" = [path.child "entity"] ∧
      (next.render path).1.shownAt "owner" = [] := by
  intro path main schema session next
  exact ⟨by decide +kernel, by decide +kernel, by rfl, by decide +kernel, by decide +kernel,
    by decide +kernel⟩

end Session

end SchemaForms
