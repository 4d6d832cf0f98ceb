import SchemaForms.Proofs.Schema.Chains
import SchemaForms.Schema.Description
import SchemaForms.Value.Regular

/-!
# Proofs/Schema/Proper — schemas that describe a module

A module is shown by a schema that is no reference and no place of a block itself.  `Proper` says
so, and it is kept on the way down: the schema of an object inside a proper one is proper again
(`proper_nested`), because what is merged into it comes from fragments whose references were
followed.
-/

namespace SchemaForms.Schema

open Value (Regular)

/-! ## Fragments of regular schemas -/

theorem regular_step? {node found : Value} {segment : List Char} (h : Regular node)
    (hfound : step? node segment = some found) : Regular found := by
  cases node with
  | obj members => exact (Value.regular_obj.mp h).2 _ (Table.mem_of_get? hfound)
  | arr items =>
    obtain ⟨i, -, hitem⟩ := Option.bind_eq_some_iff.mp hfound
    exact (Value.regular_arr.mp h).2 _ (List.mem_of_getElem? hitem)
  | _ => exact absurd hfound nofun

theorem regular_follow {root found : Value} {segments : List (List Char)} (h : Regular root)
    (hfound : follow root segments = some found) : Regular found := by
  induction segments generalizing root with
  | nil => exact Option.some.inj hfound ▸ h
  | cons segment segments ih =>
    obtain ⟨next, hnext, hrest⟩ := Option.bind_eq_some_iff.mp hfound
    exact ih (regular_step? h hnext) hrest

theorem regular_lookup {root found : Value} {reference : String} (h : Regular root)
    (hfound : lookup reference root = .ok (some found)) : Regular found := by
  unfold lookup at hfound
  split at hfound
  · exact absurd hfound nofun
  · exact Option.some.inj (Except.ok.inj hfound) ▸ h
  · exact regular_follow h (Except.ok.inj hfound)

theorem regular_next? {root schema target : Value} (hroot : Regular root)
    (hnext : next? root schema = some target) : Regular target := by
  obtain ⟨reference, -, hlookup⟩ := Option.bind_eq_some_iff.mp hnext
  cases hresult : lookup reference root with
  | error e =>
    rw [hresult] at hlookup
    exact absurd hlookup nofun
  | ok found =>
    rw [hresult] at hlookup
    obtain rfl : found = some target := hlookup
    exact regular_lookup hroot hresult

/-- A chain that ends at its first fragment comes to that fragment, if to any. -/
theorem spec_of_halt? {root schema found : Value} {result : Except RefError (Option Value)}
    {limit hops : Nat} (hschema : Regular schema) (hhalt : halt? root schema = some result)
    (hfound : resolveWithin root limit hops schema = .ok (some found)) :
    Regular found ∧ reference? found = none := by
  rw [resolveWithin_of_halt? hhalt] at hfound
  obtain ⟨hnone, rfl⟩ := halt?_eq_found.mp (hfound ▸ hhalt)
  exact ⟨hschema, hnone⟩

/-- **What a fragment stands for is regular and no reference.** -/
theorem resolveWithin_spec {root schema found : Value} {limit hops : Nat} (hroot : Regular root)
    (hschema : Regular schema) (hfound : resolveWithin root limit hops schema = .ok (some found)) :
    Regular found ∧ reference? found = none := by
  induction hops generalizing schema with
  | zero =>
    rcases hhalt : halt? root schema with _ | result
    · obtain ⟨target, hnext⟩ := halt?_eq_none.mp hhalt
      rw [resolveWithin_zero hnext] at hfound
      exact absurd hfound nofun
    · exact spec_of_halt? hschema hhalt hfound
  | succ hops ih =>
    rcases hhalt : halt? root schema with _ | result
    · obtain ⟨target, hnext⟩ := halt?_eq_none.mp hhalt
      rw [resolveWithin_succ hnext] at hfound
      exact ih (regular_next? hroot hnext) hfound
    · exact spec_of_halt? hschema hhalt hfound

theorem resolve_spec {root schema found : Value} {maxDepth : Nat} (hroot : Regular root)
    (hschema : Regular schema) (hfound : resolve maxDepth schema root = .ok (some found)) :
    Regular found ∧ reference? found = none := resolveWithin_spec hroot hschema hfound

theorem regular_infer (value : Value) : Regular (infer value) := by
  change Regular (.obj [("type", .str _)])
  rw [Value.regular_obj]
  have hkeys : ["type"].Nodup := by decide
  exact ⟨hkeys, fun member hmember => List.mem_singleton.mp hmember ▸ rfl⟩

/-! ## What a classified fragment consists of -/

/-- **A fragment that describes an object is an object without the mark of a block.** -/
theorem classify_object {schema : Option Value} {shape : ObjectShape}
    (h : Node.classify schema = .object shape) :
    ∃ members, schema = some (.obj members) ∧ categoryOf members = none ∧
      shape = ⟨propertiesOf members, additionalOf members⟩ := by
  unfold Node.classify at h
  split at h
  · rename_i members
    refine ⟨members, rfl, ?_⟩
    unfold Node.ofKeywords at h
    split at h
    · exact absurd h nofun
    · split at h
      · exact absurd h nofun
      · rename_i hcategory
        exact ⟨hcategory, (Node.object.inj h).symm⟩
    · split at h <;> exact absurd h nofun
    · exact absurd h nofun
  · exact absurd h nofun

/-- A fragment that marks the place of a block says so. -/
theorem classify_block {schema : Option Value} {category : Category}
    (h : Node.classify schema = .block category) :
    ∃ members, schema = some (.obj members) ∧ categoryOf members = some category := by
  unfold Node.classify at h
  split at h
  · rename_i members
    refine ⟨members, rfl, ?_⟩
    unfold Node.ofKeywords at h
    split at h
    · exact absurd h nofun
    · split at h
      · rename_i hcategory
        obtain rfl := Node.block.inj h
        exact hcategory
      · exact absurd h nofun
    · split at h <;> exact absurd h nofun
    · exact absurd h nofun
  · exact absurd h nofun

/-- The elements of a sequence are described by a fragment of its schema. -/
theorem classify_array {schema : Option Value} {items : Option Value}
    (h : Node.classify schema = .array items) :
    ∃ members, schema = some (.obj members) ∧ items = Table.get? members "items" := by
  unfold Node.classify at h
  split at h
  · rename_i members
    refine ⟨members, rfl, ?_⟩
    unfold Node.ofKeywords at h
    split at h
    · exact (Node.array.inj h).symm
    · split at h <;> exact absurd h nofun
    · split at h <;> exact absurd h nofun
    · exact absurd h nofun
  · exact absurd h nofun

/-- The declared properties of a regular schema are those of a regular object. -/
theorem regular_obj_propertiesOf {members : List (String × Value)} (h : Regular (.obj members)) :
    Regular (.obj (propertiesOf members)) := by
  unfold propertiesOf
  cases hfound : (Table.get? members "properties").bind Value.asMembers? with
  | none => exact Value.regular_obj.mpr ⟨Table.distinct_nil, List.forall_mem_nil _⟩
  | some properties =>
    obtain ⟨value, hvalue, hproperties⟩ := Option.bind_eq_some_iff.mp hfound
    have hregular : Regular value := (Value.regular_obj.mp h).2 _ (Table.mem_of_get? hvalue)
    cases value with
    | obj found =>
      obtain rfl := Option.some.inj hproperties
      exact hregular
    | _ => exact absurd hproperties nofun

theorem distinct_propertiesOf {members : List (String × Value)} (h : Regular (.obj members)) :
    Table.Distinct (propertiesOf members) :=
  (Value.regular_obj.mp (regular_obj_propertiesOf h)).1

theorem regular_propertiesOf {members : List (String × Value)} (h : Regular (.obj members)) :
    ∀ property ∈ propertiesOf members, Regular property.2 :=
  (Value.regular_obj.mp (regular_obj_propertiesOf h)).2

theorem regular_additionalOf {members : List (String × Value)} {schema : Value}
    (h : Regular (.obj members)) (hadditional : additionalOf members = .typed schema) :
    Regular schema := by
  unfold additionalOf at hadditional
  split at hadditional <;> simp only [reduceCtorEq, Additional.typed.injEq] at hadditional
  rename_i hfound
  subst hadditional
  exact (Value.regular_obj.mp h).2 _ (Table.mem_of_get? hfound)

/-! ## Schemas of modules -/

/-- **A schema that describes a module**: it is no reference, and it marks no place of a block. -/
structure Proper (schema : Value) : Prop where
  regular : Regular schema
  direct : reference? schema = none
  unmarked : ∀ members, schema = .obj members → categoryOf members = none

/-- The keywords of a schema; what is no object has none. -/
def keywordsOf (schema : Value) : List (String × Value) := schema.asMembers?.getD []

theorem Proper.categoryOf_keywordsOf {schema : Value} (h : Proper schema) :
    categoryOf (keywordsOf schema) = none := by
  cases schema with
  | obj members => exact h.unmarked members rfl
  | _ => rfl

/-- A schema without the two keywords at its top. -/
structure Bare (schema : Value) : Prop where
  regular : Regular schema
  direct : schema.member? "$ref" = none
  unmarked : schema.member? blockKeyword = none

instance (schema : Value) : Decidable (Bare schema) :=
  decidable_of_iff
    (Regular schema ∧ schema.member? "$ref" = none ∧ schema.member? blockKeyword = none)
    ⟨fun h => ⟨h.1, h.2.1, h.2.2⟩, fun h => ⟨h.regular, h.direct, h.unmarked⟩⟩

/-- A schema without the two keywords at its top describes a module. -/
theorem Bare.proper {schema : Value} (h : Bare schema) : Proper schema where
  regular := h.regular
  direct := by rw [reference?, h.direct]; rfl
  unmarked := by
    rintro members rfl
    have hnone : Table.get? members blockKeyword = none := h.unmarked
    rw [categoryOf, hnone]
    rfl

/-- **A module whose schema is proper does not consist of a block.** -/
theorem Proper.classify_ne_block {schema : Value} (h : Proper schema) (maxDepth : Nat)
    (category : Category) :
    Node.classify (resolve maxDepth schema schema).toOption.join ≠ .block category := by
  intro hblock
  have hself : resolve maxDepth schema schema = .ok (some schema) := by
    cases maxDepth <;> simp [resolve, resolveWithin, h.direct]
  rw [hself] at hblock
  obtain ⟨members, hmembers, hcategory⟩ := classify_block hblock
  rw [h.unmarked members (Option.some.inj hmembers)] at hcategory
  cases hcategory

/-! ## Objects inside objects -/

/-- What is merged has the keywords of the overlay, and else those of the base. -/
theorem get?_foldl_insert {overlay : List (String × Value)} (h : Table.Distinct overlay)
    (base : List (String × Value)) (key : String) :
    Table.get? (overlay.foldl (fun merged entry => Table.insert merged entry.1 entry.2) base) key
      = (Table.get? overlay key).or (Table.get? base key) := by
  induction overlay generalizing base with
  | nil => rfl
  | cons entry overlay ih =>
    obtain ⟨k, v⟩ := entry
    obtain ⟨hk, hrest⟩ := List.nodup_cons.mp h
    rw [List.foldl_cons, ih hrest, Table.get?_insert, Table.get?]
    split
    · rename_i hkey
      subst hkey
      rw [Table.get?_eq_none.mpr hk]
      rfl
    · rfl

section

variable {members : List (String × Value)}

theorem get?_keywordsOf (schema : Value) (keyword : String) :
    Table.get? (keywordsOf schema) keyword = schema.member? keyword := by
  cases schema <;> rfl

/-- **A keyword of a merged schema** is that of the overlay, and else that of the base. -/
theorem get?_keywordsOf_merge (hmembers : Table.Distinct members) (root : Value) (keyword : String) :
    Table.get? (keywordsOf (merge root (.obj members))) keyword
      = (Table.get? members keyword).or (root.member? keyword) := by
  rw [← get?_keywordsOf root]
  exact get?_foldl_insert hmembers _ keyword

theorem categoryOf_merge (hmembers : Table.Distinct members) (root : Value) :
    categoryOf (keywordsOf (merge root (.obj members)))
      = if Table.get? members blockKeyword = none then categoryOf (keywordsOf root)
        else categoryOf members := by
  unfold categoryOf
  rw [get?_keywordsOf_merge hmembers, ← get?_keywordsOf root]
  cases Table.get? members blockKeyword <;> rfl

/-- A merged schema is a reference only if the root is one, and the object does not deny it. -/
theorem reference?_merge (hmembers : Table.Distinct members)
    (hdirect : reference? (.obj members) = none) (root : Value) :
    reference? (merge root (.obj members))
      = if Table.get? members "$ref" = none then reference? root else none := by
  have hreference : ∀ schema : Value, reference? schema
      = (Table.get? (keywordsOf schema) "$ref").bind Value.asText? := fun schema => by
    rw [get?_keywordsOf]
    rfl
  have hown : (Table.get? members "$ref").bind Value.asText? = none := hdirect
  rw [hreference, get?_keywordsOf_merge hmembers]
  cases hfound : Table.get? members "$ref" with
  | none => rfl
  | some value =>
    rw [hfound] at hown
    exact hown

end

theorem regular_keywordsOf {schema : Value} (h : Regular schema) :
    Regular (.obj (keywordsOf schema)) := by
  cases schema with
  | obj members => exact h
  | _ => rfl

theorem regular_foldl_insert {overlay base : List (String × Value)}
    (hoverlay : ∀ member ∈ overlay, Regular member.2) (hbase : Regular (.obj base)) :
    Regular
      (.obj (overlay.foldl (fun merged entry => Table.insert merged entry.1 entry.2) base)) := by
  induction overlay generalizing base with
  | nil => exact hbase
  | cons entry overlay ih =>
    obtain ⟨hentry, hrest⟩ := List.forall_mem_cons.mp hoverlay
    exact ih hrest (hbase.insert entry.1 hentry)

/-- **What is merged into a proper schema is proper**, if it describes an object and is no
reference. -/
theorem proper_merge {root : Value} {members : List (String × Value)} (hroot : Proper root)
    (hregular : Regular (.obj members)) (hdirect : reference? (.obj members) = none)
    (hunmarked : categoryOf members = none) : Proper (merge root (.obj members)) := by
  obtain ⟨hdistinct, hmembers⟩ := Value.regular_obj.mp hregular
  refine ⟨regular_foldl_insert hmembers (regular_keywordsOf hroot.regular), ?_, ?_⟩
  · rw [reference?_merge hdistinct hdirect, hroot.direct, ite_self]
  · intro merged hmerged
    have hcategory := categoryOf_merge hdistinct root
    rw [hmerged, hunmarked, hroot.categoryOf_keywordsOf, ite_self] at hcategory
    exact hcategory

theorem regular_memberSchema {root : Value} {maxDepth : Nat} {additional : Additional}
    (hroot : Regular root) (hadditional : ∀ schema, additional = .typed schema → Regular schema) :
    Regular (memberSchema maxDepth additional root) := by
  unfold memberSchema
  split
  · rename_i schema
    split
    · rename_i hresolved
      exact (resolve_spec hroot (hadditional schema rfl) hresolved).1
    · exact hadditional schema rfl
  · rfl
  · rfl

/-- The named fragments of a root stand under the keywords for them, in their order. -/
theorem keys_definitionsOf (root : Value) :
    (Table.keys (definitionsOf root)).Sublist definitionKeywords := by
  unfold definitionsOf
  induction definitionKeywords with
  | nil => exact List.Sublist.slnil
  | cons keyword keywords ih =>
    cases hfound : root.member? keyword with
    | none =>
      rw [List.filterMap_cons_none (by rw [hfound]; rfl)]
      exact ih.cons _
    | some named =>
      rw [List.filterMap_cons_some (by rw [hfound]; rfl)]
      exact ih.cons_cons _

theorem regular_definitionsOf {root : Value} (h : Regular root) :
    ∀ member ∈ definitionsOf root, Regular member.2 := by
  intro member hmember
  obtain ⟨keyword, -, hnamed⟩ := List.mem_filterMap.mp hmember
  obtain ⟨named, hfound, rfl⟩ := Option.map_eq_some_iff.mp hnamed
  exact h.member? hfound

theorem proper_freeFormWithin {root : Value} {maxDepth : Nat} {additional : Additional}
    (hroot : Regular root) (hadditional : ∀ schema, additional = .typed schema → Regular schema) :
    Proper (freeFormWithin maxDepth additional root) := by
  let member := ("additionalProperties", memberSchema maxDepth additional root)
  have hkeys : (Table.keys (definitionsOf root ++ [member])).Sublist
      (definitionKeywords ++ ["additionalProperties"]) := by
    rw [Table.keys, List.map_append]
    exact (keys_definitionsOf root).append (List.Sublist.refl _)
  have hnone : ∀ key, key ∉ definitionKeywords ++ ["additionalProperties"] →
      Table.get? (definitionsOf root ++ [member]) key = none :=
    fun key hkey => Table.get?_eq_none.mpr fun hmem => hkey (hkeys.subset hmem)
  have hregular : ∀ entry ∈ definitionsOf root ++ [member], Regular entry.2 := by
    intro entry hentry
    rcases List.mem_append.mp hentry with hnamed | hlast
    · exact regular_definitionsOf hroot entry hnamed
    · exact List.mem_singleton.mp hlast ▸ regular_memberSchema hroot hadditional
  refine Bare.proper ⟨Value.regular_obj.mpr ⟨?_, hregular⟩, hnone _ (by decide), hnone _ (by decide)⟩
  exact List.Nodup.sublist hkeys (by decide)

/-- **The schema of an object inside another describes a module.** -/
theorem proper_nested {root fragment resolved : Value} {maxDepth : Nat} {shape : ObjectShape}
    (hroot : Proper root) (hfragment : Regular fragment)
    (hresolved : resolve maxDepth fragment root = .ok (some resolved))
    (hshape : Node.classify (some resolved) = .object shape) :
    Proper (nested maxDepth shape resolved root) := by
  obtain ⟨hregular, hdirect⟩ := resolve_spec hroot.regular hfragment hresolved
  obtain ⟨members, hmembers, hunmarked, rfl⟩ := classify_object hshape
  obtain rfl := Option.some.inj hmembers
  unfold nested
  split
  · exact proper_freeFormWithin hroot.regular fun schema => regular_additionalOf hregular
  · exact proper_merge hroot hregular hdirect hunmarked

theorem proper_freeForm : Proper freeForm := Bare.proper (by decide)

end SchemaForms.Schema
