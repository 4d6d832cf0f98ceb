import SchemaForms.Proofs.Schema.Proper
import SchemaForms.Render.Basic

/-!
# Proofs/Render/Places — where a schema puts modules

Which modules a rendering shows below a module is decided by the schema of that module: `placeAt`
says what it puts a given number of steps below.  The document only decides which of these places
are there.  A path is at most one place (`placeAt_item_eq_none`), and the fragments by which the
fields of a module are rendered lead to its places (`Covers`).
-/

namespace SchemaForms.Render

open Schema (Node ObjectShape Proper)
open Value (Regular)

/-- What a module at a path is. -/
inductive Place where
  | block (category : Category)
  /-- An object whose schema is at hand. -/
  | inline (schema : Value)
  deriving DecidableEq

/-- What a fragment stands for inside a root. -/
def target? (maxDepth : Nat) (root fragment : Value) : Option Value :=
  (Schema.resolve maxDepth fragment root).toOption.join

/-- The module that a fragment asks for. -/
def placeOf (maxDepth : Nat) (root fragment : Value) : Option Place :=
  match Node.classify (target? maxDepth root fragment) with
  | .block category => some (.block category)
  | .object shape =>
    some (.inline (Schema.nested maxDepth shape ((target? maxDepth root fragment).getD .null) root))
  | _ => none

/-- The module that a fragment asks for at each element of a sequence. -/
def itemPlaceOf (maxDepth : Nat) (root fragment : Value) : Option Place :=
  match Node.classify (target? maxDepth root fragment) with
  | .array items => placeOf maxDepth root (items.getD .null)
  | _ => none

/-- The fragment for a key of a module with a given schema.  A key that is not declared may be shown
by what its value is like; only an object is then a module. -/
def fragmentAt (maxDepth : Nat) (schema : Value) (key : String) : Option Value :=
  match Node.classify (target? maxDepth schema schema) with
  | .object shape =>
    match Table.get? shape.properties key, shape.additional with
    | some fragment, _ => some fragment
    | none, .forbidden => none
    | none, .any => some (Schema.infer .emptyObject)
    | none, .typed fragment => some fragment
  | _ => none

/-- **What a schema puts some steps below its module.** -/
def placeAt (maxDepth : Nat) (schema : Value) : Path → Option Place
  | [.key key] => (fragmentAt maxDepth schema key).bind (placeOf maxDepth schema)
  | [.key key, .index _] => (fragmentAt maxDepth schema key).bind (itemPlaceOf maxDepth schema)
  | [.index _] => itemPlaceOf maxDepth schema schema
  | _ => none

variable {maxDepth : Nat} {schema root fragment : Value} {place : Place}

theorem placeOf_of_block {category : Category}
    (h : Node.classify (target? maxDepth root fragment) = .block category) :
    placeOf maxDepth root fragment = some (.block category) := by rw [placeOf, h]

theorem placeOf_of_object {shape : ObjectShape}
    (h : Node.classify (target? maxDepth root fragment) = .object shape) :
    placeOf maxDepth root fragment = some (.inline
      (Schema.nested maxDepth shape ((target? maxDepth root fragment).getD .null) root)) := by
  rw [placeOf, h]

/-! ## A path is one place -/

/-- A fragment for a module is none for a sequence of modules. -/
theorem itemPlaceOf_eq_none (h : placeOf maxDepth root fragment = some place) :
    itemPlaceOf maxDepth root fragment = none := by
  unfold placeOf at h
  unfold itemPlaceOf
  split at h
  · rename_i hclass
    rw [hclass]
  · rename_i hclass
    rw [hclass]
  · exact absurd h nofun

/-- **What holds a module holds no modules as its elements.** -/
theorem placeAt_item_eq_none {key : String} (h : placeAt maxDepth schema [.key key] = some place)
    (i : Nat) : placeAt maxDepth schema [.key key, .index i] = none := by
  obtain ⟨fragment, hfragment, hplace⟩ := Option.bind_eq_some_iff.mp h
  change (fragmentAt maxDepth schema key).bind _ = none
  rw [hfragment]
  exact itemPlaceOf_eq_none hplace

/-- Places are one or two steps below their module. -/
theorem placeAt_cases {steps : Path} (h : placeAt maxDepth schema steps = some place) :
    (∃ key, steps = [.key key]) ∨ (∃ key i, steps = [.key key, .index i]) ∨
      ∃ i, steps = [.index i] := by
  unfold placeAt at h
  split at h
  · exact .inl ⟨_, rfl⟩
  · exact .inr (.inl ⟨_, _, rfl⟩)
  · exact .inr (.inr ⟨_, rfl⟩)
  · exact absurd h nofun

/-! ## The schema of a place is proper -/

theorem resolve_of_target? {found : Value} (h : target? maxDepth root fragment = some found) :
    Schema.resolve maxDepth fragment root = .ok (some found) := by
  unfold target? at h
  cases hresolve : Schema.resolve maxDepth fragment root with
  | error e =>
    rw [hresolve] at h
    exact absurd h nofun
  | ok resolved =>
    rw [hresolve] at h
    exact congrArg Except.ok h

theorem proper_of_placeOf (hroot : Proper root) (hfragment : Regular fragment) {inner : Value}
    (h : placeOf maxDepth root fragment = some (.inline inner)) : Proper inner := by
  unfold placeOf at h
  split at h
  · exact absurd h nofun
  · rename_i shape hshape
    obtain rfl := Place.inline.inj (Option.some.inj h)
    obtain ⟨members, hmembers, -⟩ := Schema.classify_object hshape
    rw [hmembers] at hshape ⊢
    exact Schema.proper_nested hroot hfragment (resolve_of_target? hmembers) hshape
  · exact absurd h nofun

theorem regular_items (hroot : Regular root) (hfragment : Regular fragment) {items : Option Value}
    (h : Node.classify (target? maxDepth root fragment) = .array items) :
    Regular (items.getD .null) := by
  obtain ⟨members, hmembers, rfl⟩ := Schema.classify_array h
  have hregular := (Schema.resolve_spec hroot hfragment (resolve_of_target? hmembers)).1
  cases hitems : Table.get? members "items" with
  | none => rfl
  | some items => exact (Value.regular_obj.mp hregular).2 _ (Table.mem_of_get? hitems)

/-! ## Fragments and places -/

/-- **A fragment that leads to places of a schema**, by the steps to its value. -/
structure Covers (maxDepth : Nat) (schema : Value) (steps : Path) (fragment : Value) : Prop where
  regular : Regular fragment
  self : ∀ place, placeOf maxDepth schema fragment = some place →
    placeAt maxDepth schema steps = some place
  item : ∀ i place, itemPlaceOf maxDepth schema fragment = some place →
    placeAt maxDepth schema (steps ++ [.index i]) = some place

/-- The fragment for a key leads to the places at and below its value. -/
theorem covers_of_fragmentAt {key : String} (hregular : Regular fragment)
    (h : fragmentAt maxDepth schema key = some fragment) :
    Covers maxDepth schema [.key key] fragment where
  regular := hregular
  self place hplace := by
    change (fragmentAt maxDepth schema key).bind _ = _
    rw [h]
    exact hplace
  item i place hplace := by
    change (fragmentAt maxDepth schema key).bind _ = _
    rw [h]
    exact hplace

/-- A fragment without modules leads anywhere. -/
theorem covers_of_none {steps : Path} (hregular : Regular fragment)
    (hself : placeOf maxDepth schema fragment = none)
    (hitem : itemPlaceOf maxDepth schema fragment = none) :
    Covers maxDepth schema steps fragment where
  regular := hregular
  self _ hplace := absurd (hself.symm.trans hplace) nofun
  item _ _ hplace := absurd (hitem.symm.trans hplace) nofun

/-- A schema that describes no object does not call for another module. -/
theorem placeOf_self_eq_none (hproper : Proper schema)
    (hclass : ∀ shape, Node.classify (target? maxDepth schema schema) ≠ .object shape) :
    placeOf maxDepth schema schema = none := by
  unfold placeOf
  split
  · rename_i category hblock
    exact absurd hblock (hproper.classify_ne_block maxDepth category)
  · rename_i shape hshape
    exact absurd hshape (hclass shape)
  · rfl

/-- **A schema that describes no object leads to the elements of its value.** -/
theorem covers_value (hproper : Proper schema)
    (hclass : ∀ shape, Node.classify (target? maxDepth schema schema) ≠ .object shape) :
    Covers maxDepth schema [] schema where
  regular := hproper.regular
  self _ hplace := absurd ((placeOf_self_eq_none hproper hclass).symm.trans hplace) nofun
  item _ _ hplace := hplace

theorem target?_of_direct (h : Schema.reference? fragment = none) :
    target? maxDepth root fragment = some fragment := by
  unfold target? Schema.resolve
  cases maxDepth <;> simp [Schema.resolveWithin, h] <;> rfl

/-- A fragment that was inferred from a value that is no object leads to no modules. -/
theorem covers_infer {steps : Path} {value : Value} (h : value.asMembers? = none) :
    Covers maxDepth schema steps (Schema.infer value) := by
  have hnull : placeOf maxDepth schema .null = none := by
    unfold placeOf
    rw [target?_of_direct rfl]
    rfl
  refine covers_of_none (Schema.regular_infer value) ?_ ?_
  · unfold placeOf
    rw [target?_of_direct rfl]
    cases value with
    | obj members => exact absurd h nofun
    | num n => cases n <;> rfl
    | _ => rfl
  · unfold itemPlaceOf
    rw [target?_of_direct rfl]
    cases value with
    | obj members => exact absurd h nofun
    | num n => cases n <;> rfl
    | arr items => exact hnull
    | _ => rfl

/-! ## The fields of a module -/

variable {shape : ObjectShape} {hidden : List String} {found : Option Value}

theorem mem_undeclared {member : String × Value}
    (h : member ∈ undeclared shape hidden found) :
    Table.get? shape.properties member.1 = none ∧
      ((∃ value, shape.additional = .any ∧ member.2 = Schema.infer value) ∨
        shape.additional = .typed member.2) := by
  have hextra : ∀ entry ∈ ((found.bind Value.asMembers?).getD []).filter (fun entry =>
      !Table.contains shape.properties entry.1 && !hidden.contains entry.1),
      Table.get? shape.properties entry.1 = none := by
    intro entry hentry
    have hnot := (Bool.and_eq_true_iff.mp (List.mem_filter.mp hentry).2).1
    simpa [Table.contains] using hnot
  unfold undeclared at h
  split at h
  · exact absurd h List.not_mem_nil
  · rename_i hany
    obtain ⟨entry, hentry, rfl⟩ := List.mem_map.mp h
    exact ⟨hextra entry hentry, .inl ⟨entry.2, hany, rfl⟩⟩
  · rename_i fragment htyped
    obtain ⟨entry, hentry, rfl⟩ := List.mem_map.mp h
    exact ⟨hextra entry hentry, .inr htyped⟩

/-- The shape of a module is read off keywords that are regular. -/
theorem exists_keywords (hschema : Regular schema)
    (hclass : Node.classify (target? maxDepth schema schema) = .object shape) :
    ∃ keywords, Regular (.obj keywords) ∧
      shape = ⟨Schema.propertiesOf keywords, Schema.additionalOf keywords⟩ := by
  obtain ⟨keywords, hkeywords, -, hshape⟩ := Schema.classify_object hclass
  exact ⟨keywords, (Schema.resolve_spec hschema hschema (resolve_of_target? hkeywords)).1, hshape⟩

theorem fragmentAt_of_object
    (hclass : Node.classify (target? maxDepth schema schema) = .object shape)
    (key : String) :
    fragmentAt maxDepth schema key = match Table.get? shape.properties key, shape.additional with
      | some fragment, _ => some fragment
      | none, .forbidden => none
      | none, .any => some (Schema.infer .emptyObject)
      | none, .typed fragment => some fragment := by
  unfold fragmentAt
  rw [hclass]

/-- Whatever an undeclared key holds, it is shown as an object is if it is one. -/
theorem covers_inferred {key : String}
    (hclass : Node.classify (target? maxDepth schema schema) = .object shape)
    (hnone : Table.get? shape.properties key = none) (hany : shape.additional = .any)
    (value : Value) :
    Covers maxDepth schema [.key key] (Schema.infer value) := by
  cases hmembers : value.asMembers? with
  | none => exact covers_infer hmembers
  | some members =>
    have hobject : Schema.infer value = Schema.infer .emptyObject := by
      cases value with
      | obj _ => rfl
      | _ => cases hmembers
    refine covers_of_fragmentAt (Schema.regular_infer value) ?_
    rw [fragmentAt_of_object hclass, hnone, hany, hobject]

/-- **The fields of a module lead to its places.** -/
theorem covers_of_mem (hproper : Proper schema)
    (hclass : Node.classify (target? maxDepth schema schema) = .object shape)
    {member : String × Value} (h : member ∈ fieldSchemas shape hidden found) :
    Covers maxDepth schema [.key member.1] member.2 := by
  obtain ⟨keywords, hregular, hshape⟩ := exists_keywords hproper.regular hclass
  rcases List.mem_append.mp h with hdeclared | hundeclared
  · have hmem : member ∈ shape.properties := (List.mem_filter.mp hdeclared).1
    rw [hshape] at hmem
    have hget : Table.get? shape.properties member.1 = some member.2 := by
      rw [hshape]
      exact (Schema.distinct_propertiesOf hregular).get?_eq hmem
    refine covers_of_fragmentAt (Schema.regular_propertiesOf hregular member hmem) ?_
    rw [fragmentAt_of_object hclass, hget]
  · obtain ⟨hnone, ⟨value, hany, hinfer⟩ | htyped⟩ := mem_undeclared hundeclared
    · rw [hinfer]
      exact covers_inferred hclass hnone hany value
    · have hadditional : Schema.additionalOf keywords = .typed member.2 := by
        rw [hshape] at htyped
        exact htyped
      refine covers_of_fragmentAt (Schema.regular_additionalOf hregular hadditional) ?_
      rw [fragmentAt_of_object hclass, hnone, htyped]

theorem distinct_members (hfound : ∀ value, found = some value → Regular value) :
    Table.Distinct ((found.bind Value.asMembers?).getD []) := by
  cases found with
  | none => exact Table.distinct_nil
  | some value =>
    have hvalue := hfound value rfl
    cases value with
    | obj members => exact (Value.regular_obj.mp hvalue).1
    | _ => exact Table.distinct_nil

theorem nodup_undeclared (hmembers : Table.Distinct ((found.bind Value.asMembers?).getD [])) :
    ((undeclared shape hidden found).map (·.1)).Nodup := by
  have hfiltered : ∀ p : String × Value → Bool,
      ((((found.bind Value.asMembers?).getD []).filter p).map (·.1)).Nodup :=
    fun p => hmembers.sublist List.filter_sublist
  unfold undeclared
  split
  · exact List.nodup_nil
  · rw [List.map_map]
    exact hfiltered _
  · rw [List.map_map]
    exact hfiltered _

/-- **No two fields of a module have a key in common.** -/
theorem nodup_fieldSchemas (hschema : Regular schema)
    (hclass : Node.classify (target? maxDepth schema schema) = .object shape)
    (hfound : ∀ value, found = some value → Regular value) :
    ((fieldSchemas shape hidden found).map (·.1)).Nodup := by
  obtain ⟨keywords, hregular, hshape⟩ := exists_keywords hschema hclass
  have hproperties : Table.Distinct shape.properties := by
    rw [hshape]
    exact Schema.distinct_propertiesOf hregular
  have hextra : ((undeclared shape hidden found).map (·.1)).Nodup :=
    nodup_undeclared (distinct_members hfound)
  unfold fieldSchemas
  rw [List.map_append]
  refine List.nodup_append.mpr ⟨hproperties.sublist List.filter_sublist, hextra, ?_⟩
  rintro key hdeclared _ hundeclared rfl
  obtain ⟨member, hmember, rfl⟩ := List.mem_map.mp hdeclared
  obtain ⟨other, hother, hkey⟩ := List.mem_map.mp hundeclared
  have hnone := (mem_undeclared hother).1
  rw [hkey, hproperties.get?_eq (List.mem_filter.mp hmember).1] at hnone
  cases hnone

end SchemaForms.Render
