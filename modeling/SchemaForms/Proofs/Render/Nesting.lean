import SchemaForms.Proofs.Path.Regions
import SchemaForms.Proofs.Render.Modules
import SchemaForms.Proofs.Schema.Merging

/-!
# Proofs/Render/Nesting — objects inside objects

An object inside a module is shown by a module of its own, whose schema is that of the outer module
with the keywords of the object on top.  In a fresh session it shows the object's own keys, and takes
further ones only if the object does, exactly if no keyword that it takes over does any harm, or it
takes over a reference that leads to an object with the same fields
(`nested_objects_show_their_own_fields`).
-/

namespace SchemaForms.Render

open Schema (Node ObjectShape StandsAlone)
open Value (Regular)

variable {view : View} {next : FieldRenderer} {path : Path} {room : Nat}

/-! ## The paths of fields -/

theorem path_module (request : ModuleRequest) (registry : Registry) :
    ((module view next request).run registry).1.path = request.path := by
  rcases hcurrent : (currentEditor view request).run registry with ⟨state, dropped⟩
  cases htext : state.bind EditorState.shownText? with
  | some shown =>
    rw [run_module_source hcurrent htext]
    rfl
  | none =>
    rcases hschema : (schemaFor request).run dropped with ⟨schema | host, filed⟩
    · rw [run_module_pending hcurrent htext hschema]
      rfl
    · rw [run_module_form hcurrent htext hschema]
      rfl

theorem path_scalar (kind : Primitive) (options : Option (List String)) (path : Path)
    (value : Option Value) : (scalar kind options path value).path = path := by
  cases kind <;> cases options <;> rfl

theorem path_array (key : String) (items : Option Value) (root : Value) (registry : Registry) :
    ((array view next key items root path).run registry).1.path = path := by
  unfold array
  dsimp only
  split <;> rfl

/-- **A field edits the value at its path**, whatever its fragment calls for. -/
theorem path_field (room : Nat) (key : String) (fragment root : Value) (path : Path)
    (registry : Registry) :
    ((field view room key fragment root path).run registry).1.path = path := by
  cases room with
  | zero => rfl
  | succ room =>
    change ((openField view (field view room) key fragment root path).run registry).1.path = path
    unfold openField
    dsimp only
    split
    · rfl
    · split
      · exact path_array _ _ _ _
      · split <;> rfl
      · exact path_module _ _
      · exact path_scalar _ _ _ _
      · rfl

/-! ## Fields one after the other -/

section

variable {α β γ : Type} {render : α → Renderer β}

theorem run_mapM_cons (a : α) (rest : List α) (registry : Registry) :
    ((a :: rest).mapM render).run registry =
      let first := (render a).run registry
      let others := (rest.mapM render).run first.2
      (first.1 :: others.1, others.2) := by
  rw [List.mapM_cons]
  rfl

/-- What every result tells whatever the registry, all results tell. -/
theorem map_run_mapM {tells : β → γ} {told : α → γ}
    (h : ∀ a registry, tells ((render a).run registry).1 = told a) (items : List α)
    (registry : Registry) : ((items.mapM render).run registry).1.map tells = items.map told := by
  induction items generalizing registry with
  | nil => rfl
  | cons a rest ih =>
    rw [run_mapM_cons]
    dsimp only
    rw [List.map_cons, List.map_cons, h, ih]

end

/-- **The field of a key is rendered as it would be first**, as far as the fields before it keep. -/
theorem get?_run_mapM {P : Registry → Prop} (render : String → Value → Renderer Widget)
    {entries : List (String × Value)} {key : String} {fragment : Value}
    (hkeeps : ∀ entry ∈ entries, entry.1 ≠ key → ∀ registry, P registry →
      P ((render entry.1 entry.2).run registry).2)
    (hentry : Table.get? entries key = some fragment) {registry : Registry} (h : P registry) :
    ∃ before, P before ∧
      Table.get? ((entries.mapM fun entry : String × Value => do
        return (entry.1, ← render entry.1 entry.2)).run registry).1 key
          = some ((render key fragment).run before).1 := by
  induction entries generalizing registry with
  | nil => exact absurd hentry nofun
  | cons entry rest ih =>
    obtain ⟨first, schema⟩ := entry
    rw [run_mapM_cons]
    by_cases hkey : first = key
    · subst hkey
      rw [Table.get?, if_pos rfl, Option.some.injEq] at hentry
      subst hentry
      exact ⟨registry, h, if_pos rfl⟩
    · rw [Table.get?, if_neg hkey] at hentry
      have hnext := hkeeps (first, schema) List.mem_cons_self hkey registry h
      obtain ⟨before, hbefore, hget⟩ := ih
        (fun entry hmem => hkeeps entry (List.mem_cons_of_mem _ hmem)) hentry hnext
      exact ⟨before, hbefore, (if_neg hkey).trans hget⟩

theorem get?_append_of_some {front back : List (String × Value)} {key : String} {fragment : Value}
    (h : Table.get? front key = some fragment) : Table.get? (front ++ back) key = some fragment := by
  induction front with
  | nil => exact absurd h nofun
  | cons entry rest ih =>
    obtain ⟨first, schema⟩ := entry
    rw [List.cons_append, Table.get?]
    rw [Table.get?] at h
    split
    · rename_i hkey
      rwa [if_pos hkey] at h
    · rename_i hkey
      rw [if_neg hkey] at h
      exact ih h

/-- **A declared key that is not hidden is shown by its own fragment.** -/
theorem get?_fieldSchemas {shape : ObjectShape} {hidden : List String} {key : String}
    {fragment : Value} (h : Table.get? shape.properties key = some fragment) (hkey : key ∉ hidden)
    (found : Option Value) : Table.get? (fieldSchemas shape hidden found) key = some fragment := by
  refine get?_append_of_some ?_
  have hdrop := Table.get?_dropKeys shape.properties (fun key => hidden.contains key) key
  rw [if_neg (by simpa using hkey), h] at hdrop
  exact hdrop

/-! ## The fields of a module -/

section

variable {schema : Value} {shape : ObjectShape}

/-- **The fields of an object are those of its keys**, each at the path of its key. -/
theorem run_fields_object (path : Path)
    (hclass : Node.classify (target? view.maxRefDepth schema schema) = .object shape) (room : Nat)
    (hidden : List String) (registry : Registry) :
    let body := ((fields view (field view room) schema path hidden).run registry).1
    body.1.map (fun member => (member.1, member.2.path)) =
        (fieldSchemas shape hidden (Document.read? view.document path)).map
          (fun entry => (entry.1, path.child entry.1)) ∧
      body.2 = decide (shape.additional ≠ .forbidden) := by
  unfold fields
  rw [target?] at hclass
  rw [hclass]
  refine ⟨?_, rfl⟩
  refine map_run_mapM (fun entry registry => ?_) _ registry
  exact congrArg (entry.1, ·) (path_field room entry.1 entry.2 schema (path.child entry.1) registry)

/-- A schema that describes no object shows the value itself. -/
theorem run_fields_other (path : Path)
    (hclass : ∀ shape, Node.classify (target? view.maxRefDepth schema schema) ≠ .object shape)
    (room : Nat) (hidden : List String) (registry : Registry) :
    ((fields view (field view room) schema path hidden).run registry).1.1.map
      (fun member => (member.1, member.2.path)) = [("value", path)] := by
  unfold fields
  split
  · rename_i shape hobject
    exact absurd hobject (hclass shape)
  · exact congrArg (fun p => [("value", p)]) (path_field room "value" schema schema path registry)

end

/-! ## Modules where nothing is filed -/

/-- No editor has a state, and no schema is filed for a path. -/
structure Untouched (path : Path) (registry : Registry) : Prop where
  editors : registry.editors = []
  schema : registry.cache.peek? path = none

/-- **A place stays untouched while another key is rendered.** -/
theorem stable_untouched {base : Path} {key other : String} (hne : other ≠ key) :
    Stable (fun below => base.child other <+: below) (Untouched (base.child key)) where
  drop {registry path} _ h := by
    refine ⟨?_, ?_⟩
    · rw [Registry.dropUnder, Registry.dropWhere, Registry.forgetEditors]
      dsimp only
      rw [h.editors]
      rfl
    · rw [Registry.dropUnder, Registry.peek?_dropWhere, h.schema, ite_self]
  seed {registry path} schema hpath h := by
    refine ⟨h.editors, ?_⟩
    rw [peek?_seed_key, if_neg]
    · exact h.schema
    · intro hkey
      exact hne (Path.key_eq_of_writtenUnder ⟨path, hpath, hkey⟩ (Path.writtenUnder_self _))

/-- **A module for which nothing is filed is a form of its schema.** -/
theorem run_module_untouched (view : View) (next : FieldRenderer) (request : ModuleRequest)
    {inner : Value} {isItem : Bool} (hsubject : request.subject = .object inner isItem)
    {registry : Registry} (h : Untouched request.path registry) :
    ∃ head before, ((module view next request).run registry).1 =
      let body := ((fields view next inner request.path []).run before).1
      .form head body.1 body.2 := by
  have hcurrent : (currentEditor view request).run registry = (none, registry) := by
    rw [run_currentEditor, hsubject, Registry.editor?, h.editors]
    rfl
  have hschema := run_schemaFor_object hsubject registry
  rw [h.schema] at hschema
  rw [run_module_form hcurrent rfl hschema, hsubject]
  exact ⟨_, _, rfl⟩

/-- A fragment that stands for an object with declared keys is shown by a module of its own. -/
theorem openField_nested (view : View) (next : FieldRenderer) (key : String) (path : Path)
    {fragment root own : Value} {shape : ObjectShape}
    (hown : Schema.resolve view.maxRefDepth fragment root = .ok (some own))
    (hshape : Node.classify (some own) = .object shape) (hne : shape.properties ≠ []) :
    openField view next key fragment root path
      = module view next ⟨some key, path, .object (Schema.merge root own) false, false⟩ := by
  have hdeclares : shape.properties.isEmpty = false := by simpa using hne
  unfold openField
  simp only [hown, hshape, Schema.nested, hdeclares, Option.getD_some]
  rfl

/-! ## Objects inside objects -/

/-- Two objects show a value with the same keys, and both take further keys, or none does. -/
structure SameFields (a b : ObjectShape) (found : Option Value) : Prop where
  keys : (fieldSchemas a [] found).map (·.1) = (fieldSchemas b [] found).map (·.1)
  closed : a.additional = .forbidden ↔ b.additional = .forbidden

/-- **A module shows an object's own fields**: its declared keys in their order, the other keys of the
value if it takes them, and a control to add a key exactly if it does. -/
def ShowsOwnFields (shape : ObjectShape) (found : Option Value) (path : Path) (widget : Widget) :
    Prop :=
  ∃ head members, widget = .form head members (decide (shape.additional ≠ .forbidden)) ∧
    members.map (fun member => (member.1, member.2.path)) =
      (fieldSchemas shape [] found).map fun entry => (entry.1, path.child entry.1)

/-- Objects with the same declared keys show the same keys, if both take others or none does. -/
theorem sameFields_of_properties {a b : ObjectShape} (hproperties : a.properties = b.properties)
    (hclosed : a.additional = .forbidden ↔ b.additional = .forbidden) (found : Option Value) :
    SameFields a b found := by
  obtain ⟨properties, first⟩ := a
  obtain ⟨_, second⟩ := b
  obtain rfl : properties = _ := hproperties
  refine ⟨?_, hclosed⟩
  unfold fieldSchemas undeclared
  rw [List.map_append, List.map_append]
  congr 1
  cases first <;> cases second <;> simp_all

variable {shape : ObjectShape} {inner : Value}

/-- **A form shows an object's own fields exactly if its schema describes an object with these
fields.** -/
theorem showsOwnFields_iff (room : Nat) (head : ModuleHead) (before : Registry) :
    ShowsOwnFields shape (Document.read? view.document path) path
        (let body := ((fields view (field view room) inner path []).run before).1
        .form head body.1 body.2) ↔
      ∃ merged, Node.classify (target? view.maxRefDepth inner inner) = .object merged ∧
        SameFields merged shape (Document.read? view.document path) := by
  by_cases hclass : ∃ merged, Node.classify (target? view.maxRefDepth inner inner) = .object merged
  · obtain ⟨merged, hmerged⟩ := hclass
    obtain ⟨hmembers, hopen⟩ := run_fields_object path hmerged room [] before
    have hown : ∀ other : ObjectShape, (other.additional = .forbidden ↔ shape.additional = .forbidden)
        ↔ decide (other.additional ≠ .forbidden) = decide (shape.additional ≠ .forbidden) := by
      intro other
      rw [decide_eq_decide]
      exact Decidable.not_iff_not.symm
    constructor
    · rintro ⟨_, members, hform, hkeys⟩
      obtain ⟨-, hfields, hclosed⟩ := Widget.form.inj hform
      refine ⟨merged, hmerged, ?_, (hown merged).mpr (hopen.symm.trans hclosed)⟩
      have hpairs := hmembers.symm.trans ((congrArg _ hfields).trans hkeys)
      simpa [Function.comp_def] using congrArg (List.map Prod.fst) hpairs
    · rintro ⟨other, hother, hsame⟩
      obtain rfl := Node.object.inj (hmerged.symm.trans hother)
      refine ⟨head, _, congrArg _ (hopen.trans ((hown _).mp hsame.closed)), hmembers.trans ?_⟩
      simpa [Function.comp_def] using congrArg (List.map fun key => (key, path.child key)) hsame.keys
  · constructor
    · rintro ⟨_, members, hform, hkeys⟩
      obtain ⟨-, hfields, -⟩ := Widget.form.inj hform
      have hvalue := run_fields_other path (fun shape hshape => hclass ⟨shape, hshape⟩)
        room [] before
      have hpairs := hvalue.symm.trans ((congrArg _ hfields).trans hkeys)
      -- The one field edits the value itself, and no field of an object does.
      have hmem : ("value", path) ∈ (fieldSchemas shape [] (Document.read? view.document path)).map
          fun entry => (entry.1, path.child entry.1) := hpairs ▸ List.mem_singleton_self _
      obtain ⟨entry, -, hentry⟩ := List.mem_map.mp hmem
      have hlength := congrArg List.length (Prod.mk.inj hentry).2
      simp [Path.child] at hlength
    · rintro ⟨merged, hmerged, -⟩
      exact absurd ⟨merged, hmerged⟩ hclass

/-! ## What an object takes over -/

/-- An object takes over a reference from its root, and what that leads to has the same fields. -/
structure LeadsToSame (maxDepth : Nat) (root own : Value) (shape : ObjectShape)
    (found : Option Value) : Prop where
  silent : own.member? "$ref" = none
  reference : Schema.reference? root ≠ none
  same : ∃ merged, Node.classify
    (target? maxDepth (Schema.merge root own) (Schema.merge root own)) = .object merged ∧
      SameFields merged shape found

/-- **What is merged into its root describes an object with the same fields** exactly if it stands
alone or is led to such an object. -/
theorem merged_sameFields_iff {maxDepth : Nat} {root own : Value} (hregular : Regular own)
    (hdirect : Schema.reference? own = none) (hshape : Node.classify (some own) = .object shape)
    (hne : shape.properties ≠ []) (found : Option Value) :
    (∃ merged, Node.classify
        (target? maxDepth (Schema.merge root own) (Schema.merge root own)) = .object merged ∧
      SameFields merged shape found) ↔
        StandsAlone root own ∨ LeadsToSame maxDepth root own shape found := by
  obtain ⟨members, hmembers, -, hkeywords⟩ := Schema.classify_object hshape
  obtain rfl := Option.some.inj hmembers
  have hdistinct := (Value.regular_obj.mp hregular).1
  by_cases hreference : Table.get? members "$ref" = none ∧ Schema.reference? root ≠ none
  · refine ⟨fun hsame => .inr ⟨hreference.1, hreference.2, hsame⟩, ?_⟩
    rintro (halone | hleads)
    · exact absurd (halone.direct hreference.1) hreference.2
    · exact hleads.same
  have hmerged : Schema.reference? (Schema.merge root (.obj members)) = none := by
    rw [Schema.reference?_merge hdistinct hdirect]
    split
    · rename_i hnone
      exact Decidable.byContradiction fun hsome => hreference ⟨hnone, hsome⟩
    · rfl
  have hclosed : ((if Table.get? members "additionalProperties" = none then
      Schema.additionalOf (Schema.keywordsOf root) else shape.additional) = .forbidden ↔
        shape.additional = .forbidden) ↔ (Table.get? members "additionalProperties" = none →
          Schema.additionalOf (Schema.keywordsOf root) = .forbidden) := by
    split
    · rename_i hnone
      have hforbidden : shape.additional = .forbidden := by
        rw [hkeywords]
        change Schema.additionalOf members = .forbidden
        rw [Schema.additionalOf, hnone]
      simp [hnone, hforbidden]
    · rename_i hsome
      simp [hsome]
  rw [target?_of_direct hmerged]
  constructor
  · rintro ⟨merged, hmerged, hsame⟩
    obtain ⟨htyped, hunmarked, rfl⟩ := (Schema.classify_merge_iff hdistinct hshape hne root).mp hmerged
    exact .inl ⟨fun hnone => Decidable.byContradiction fun hsome => hreference ⟨hnone, hsome⟩, htyped,
      hunmarked, hclosed.mp hsame.closed⟩
  · rintro (halone | hleads)
    · refine ⟨_, (Schema.classify_merge_iff hdistinct hshape hne root).mpr
        ⟨halone.typed, halone.unmarked, rfl⟩, sameFields_of_properties ?_ ?_ found⟩
      · rfl
      · exact hclosed.mpr halone.closed
    · exact absurd ⟨hleads.silent, hleads.reference⟩ hreference

end SchemaForms.Render

namespace SchemaForms.Session

open Render (Untouched LeadsToSame ShowsOwnFields target?)
open Schema (Node ObjectShape StandsAlone)
open Value (Regular)

/-! ## Fresh sessions -/

theorem untouched_ofDocument (config : Config) (document : Value) (path : Path) :
    Untouched path (ofDocument config document).registry := ⟨rfl, rfl⟩

/-- What the fields of a module are rendered as in a session. -/
def renderedFields (session : Session) (depth : Nat) (root : Value) (path : Path)
    (hidden : List String) : List (String × Widget) × Bool :=
  (session.runRenderer (Render.fields session.view (session.fieldAt depth) root path hidden)).1

variable {root : Value} {shape : ObjectShape}

/-- **The field of a declared key** is rendered by its own fragment, where nothing is filed. -/
theorem get?_renderedFields {config : Config} (document : Value) (depth : Nat) (path : Path)
    {hidden : List String}
    (hshape : Node.classify (target? config.maxRefDepth root root) = .object shape) {key : String}
    {fragment : Value} (hfragment : Table.get? shape.properties key = some fragment)
    (hkey : key ∉ hidden) :
    let session := ofDocument config document
    ∃ before, Untouched (path.child key) before ∧
      Table.get? (session.renderedFields depth root path hidden).1 key =
        some ((session.fieldAt depth key fragment root (path.child key)).run before).1 := by
  intro session
  have hkeeps : ∀ entry ∈ Render.fieldSchemas shape hidden (session.value? path), entry.1 ≠ key →
      ∀ registry, Untouched (path.child key) registry → Untouched (path.child key)
        ((session.fieldAt depth entry.1 entry.2 root (path.child entry.1)).run registry).2 := by
    intro entry _ hne registry huntouched
    have hdown : Render.Downward fun below => path.child entry.1 <+: below :=
      fun hle hpath => hpath.trans hle
    exact (Render.respects_field (Render.stable_untouched hne).parametric hdown _ entry.1 entry.2 root
      (path.child entry.1) (List.prefix_refl _) registry registry ⟨rfl, huntouched⟩).related.2
  obtain ⟨before, hbefore, hget⟩ := Render.get?_run_mapM
    (fun key fragment => session.fieldAt depth key fragment root (path.child key)) hkeeps
    (Render.get?_fieldSchemas hfragment hkey _) (untouched_ofDocument config document (path.child key))
  refine ⟨before, hbefore, ?_⟩
  rw [target?] at hshape
  unfold renderedFields runRenderer Render.fields
  change Node.classify (Schema.resolve session.view.maxRefDepth root root).toOption.join = _ at hshape
  rw [hshape]
  exact hget

/-- **An object inside a module shows its own fields** in a fresh session if and only if what it takes
over from the schema of the module leaves it the object that it describes, or it takes over a
reference that leads to an object with the same fields.  Inside a module whose schema is no reference,
that is: if the object says what it does with other keys, or the module takes none. -/
theorem nested_objects_show_their_own_fields {config : Config} {document : Value} {depth : Nat}
    (hdepth : depth ≤ config.maxRenderDepth) {path : Path} {hidden : List String}
    (hroot : Regular root)
    (hshape : Node.classify (target? config.maxRefDepth root root) = .object shape) {key : String}
    {fragment : Value} (hfragment : Table.get? shape.properties key = some fragment)
    (hkey : key ∉ hidden) {own : Value}
    (hown : Schema.resolve config.maxRefDepth fragment root = .ok (some own)) {ownShape : ObjectShape}
    (hownShape : Node.classify (some own) = .object ownShape) (hne : ownShape.properties ≠ []) :
    let session := ofDocument config document
    let found := session.value? (path.child key)
    ∃ widget, Table.get? (session.renderedFields depth root path hidden).1 key = some widget ∧
      (ShowsOwnFields ownShape found (path.child key) widget ↔
        StandsAlone root own ∨ LeadsToSame config.maxRefDepth root own ownShape found) ∧
      (Schema.reference? root = none →
        (ShowsOwnFields ownShape found (path.child key) widget ↔
          (own.member? "additionalProperties" = none →
            Schema.additionalOf (Schema.keywordsOf root) = .forbidden))) := by
  intro session found
  obtain ⟨resolved, hresolved, hregularFragment⟩ : ∃ keywords, target? config.maxRefDepth root root
      = some (.obj keywords) ∧ Regular fragment := by
    obtain ⟨keywords, hkeywords, -, rfl⟩ := Schema.classify_object hshape
    have hregular := (Schema.resolve_spec hroot hroot (Render.resolve_of_target? hkeywords)).1
    exact ⟨keywords, hkeywords,
      Schema.regular_propertiesOf hregular _ (Table.mem_of_get? hfragment)⟩
  obtain ⟨hregular, hdirect⟩ := Schema.resolve_spec hroot hregularFragment hown
  obtain ⟨before, hbefore, hget⟩ :=
    get?_renderedFields document depth path hshape hfragment hkey
  obtain ⟨room, hroom⟩ : ∃ room, session.fieldAt depth = Render.field session.view (room + 1) := by
    have hlevels : Render.roomAt config.maxRenderDepth depth = config.maxRenderDepth - depth + 1 := by
      unfold Render.roomAt
      omega
    exact ⟨_, congrArg (Render.field session.view) hlevels⟩
  obtain ⟨head, filed, hmodule⟩ := Render.run_module_untouched session.view
    (Render.field session.view room)
    ⟨some key, path.child key, .object (Schema.merge root own) false, false⟩ rfl hbefore
  have hfield := Render.openField_nested session.view (Render.field session.view room) key
    (path.child key) hown hownShape hne
  have hiff : ShowsOwnFields ownShape found (path.child key)
      ((session.fieldAt depth key fragment root (path.child key)).run before).1 ↔
        StandsAlone root own ∨ LeadsToSame config.maxRefDepth root own ownShape found := by
    rw [hroom]
    change ShowsOwnFields ownShape found (path.child key) ((Render.openField session.view
      (Render.field session.view room) key fragment root (path.child key)).run before).1 ↔ _
    rw [hfield, hmodule]
    exact (Render.showsOwnFields_iff room head filed).trans
      (Render.merged_sameFields_iff hregular hdirect hownShape hne found)
  refine ⟨_, hget, hiff, fun hplain => ?_⟩
  have hself : Node.classify (some root) = .object shape := by
    rwa [Render.target?_of_direct hplain] at hshape
  obtain ⟨htyped, hunmarked⟩ := Schema.inherits_of_classify hself
  rw [hiff]
  constructor
  · rintro (halone | hleads)
    · exact halone.closed
    · exact absurd hplain hleads.reference
  · exact fun hclosed => .inl ⟨fun _ => hplain, fun _ => htyped, fun _ => hunmarked, hclosed⟩

/-- The schema of an object with these declared keys. -/
def objectSchema (properties : List (String × Value)) : Value :=
  .obj [("type", .str "object"), ("properties", .obj properties)]

/-- A node of a list: a name and the next node. -/
def nodeSchema : Value :=
  objectSchema [("name", .obj [("type", .str "string")]),
    ("next", .obj [("$ref", .str "#/definitions/node")])]

/-- The schema of a list of nodes, which is a reference to its first node. -/
def listSchema : Value :=
  .obj [("$ref", .str "#/definitions/node"), ("definitions", .obj [("node", nodeSchema)])]

/-- The next node of a list takes the reference of the list over, and that leads back to a node. -/
theorem nested_objects_show_their_own_fields_next :
    ∃ widget, Table.get? ((ofDocument .default .null).renderedFields 0 listSchema Path.root []).1
        "next" = some widget ∧
      ShowsOwnFields
        ⟨[("name", .obj [("type", .str "string")]),
          ("next", .obj [("$ref", .str "#/definitions/node")])], .forbidden⟩
        none (Path.root.child "next") widget := by
  have hbound : 0 ≤ Config.default.maxRenderDepth := Nat.zero_le _
  obtain ⟨widget, hwidget, hiff, -⟩ := @nested_objects_show_their_own_fields listSchema _
    .default .null 0 hbound Path.root [] (by decide) rfl "next" _ rfl (by decide) nodeSchema rfl _ rfl
    (by decide)
  exact ⟨widget, hwidget, hiff.mpr (.inr ⟨rfl, by decide, _, rfl, ⟨rfl, Iff.rfl⟩⟩)⟩

/-- The schema of an object with a text under `x`, which takes no other keys. -/
def leafSchema : Value := objectSchema [("x", .obj [("type", .str "string")])]

/-- What the schema of a leaf describes. -/
def leafShape : ObjectShape := ⟨[("x", .obj [("type", .str "string")])], .forbidden⟩

/-- The schema of an object with a leaf, which takes any other keys. -/
def openSchema : Value :=
  .obj [("type", .str "object"), ("properties", .obj [("leaf", leafSchema)]),
    ("additionalProperties", .bool true)]

/-- A reference to the schema of an object with a leaf. -/
def referringSchema : Value :=
  .obj [("$ref", .str "#/definitions/main"),
    ("definitions", .obj [("main", objectSchema [("leaf", leafSchema)])])]

/-- The settings under which modules are shown two levels deep. -/
def shallow : Config := { Config.default with maxRenderDepth := 1 }

/-- **A leaf takes further keys because the object around it does, and shows the fields of what the
object around it refers to.** -/
theorem nested_objects_show_other_fields :
    Node.classify (some leafSchema) = .object leafShape ∧
      (∃ widget, Table.get?
          ((ofDocument shallow .null).renderedFields 0 openSchema Path.root []).1 "leaf"
            = some widget ∧
        (∃ head members, widget = .form head members true) ∧
        ¬ ShowsOwnFields leafShape none (Path.root.child "leaf") widget) ∧
      ∃ widget, Table.get?
          ((ofDocument shallow .null).renderedFields 0 referringSchema Path.root []).1 "leaf"
            = some widget ∧
        (∃ head members, widget = .form head members false ∧ members.map (·.1) = ["leaf"]) ∧
        ¬ ShowsOwnFields leafShape none (Path.root.child "leaf") widget := by
  refine ⟨rfl, ⟨_, rfl, ⟨_, _, rfl⟩, ?_⟩, _, rfl, ⟨_, _, rfl, rfl⟩, ?_⟩
  · rintro ⟨head, members, hform, -⟩
    exact absurd (Widget.form.inj hform).2.2 (by decide)
  · rintro ⟨head, members, hform, hkeys⟩
    obtain ⟨-, rfl, -⟩ := Widget.form.inj hform
    exact absurd (List.cons.inj hkeys).1 (by decide)

end SchemaForms.Session
