import SchemaForms.Proofs.Schema.Proper

/-!
# Proofs/Schema/Merging — what an object takes over from its root

The schema of an object inside another is merged into that of its root, so every keyword that the
object does not set itself comes from the root.  Its declared keys are always its own
(`propertiesOf_merge`), but whether it is an object at all, and what it does with other keys, may be
the root's.  `StandsAlone` names the keywords that must not get through, one by one.
-/

namespace SchemaForms.Schema

/-! ## Objects by their keywords -/

/-- The type that is stated under `type`: a text, or of a union the first that is not null. -/
def statedType? : Option Value → Option String
  | some (.str tag) => some tag
  | some (.arr tags) => (tags.filterMap Value.asText?).find? (· != "null")
  | _ => none

variable {members : List (String × Value)} {root : Value}

/-- **A type is stated, or else implied.** -/
theorem typeOf_eq (members : List (String × Value)) :
    typeOf members = (statedType? (Table.get? members "type")).or (impliedType members) := by
  unfold typeOf statedType?
  cases Table.get? members "type" with
  | none => rfl
  | some stated =>
    cases stated with
    | arr tags =>
      dsimp only
      cases (tags.filterMap Value.asText?).find? (· != "null") <;> rfl
    | _ => rfl

theorem properties_of_ne_nil (h : propertiesOf members ≠ []) :
    ∃ properties, Table.get? members "properties" = some (.obj properties) ∧
      propertiesOf members = properties := by
  unfold propertiesOf at h ⊢
  cases hfound : Table.get? members "properties" with
  | none =>
    rw [hfound] at h
    exact absurd rfl h
  | some value =>
    rw [hfound] at h
    cases value with
    | obj properties => exact ⟨properties, rfl, rfl⟩
    | _ => exact absurd rfl h

theorem ofKeywords_eq_object_iff {shape : ObjectShape} :
    Node.ofKeywords members = .object shape ↔ typeOf members = some "object" ∧
      categoryOf members = none ∧ shape = ⟨propertiesOf members, additionalOf members⟩ := by
  unfold Node.ofKeywords
  split
  · rename_i harray
    simp [harray]
  · rename_i hobject
    cases hcategory : categoryOf members <;> simp [hobject, eq_comm]
  · rename_i tag _ hobject htag
    have hne : tag ≠ "object" := hobject
    split <;> simp [htag, hne]
  · rename_i hnone
    simp [hnone]

/-- **What declares keys is an object**, unless another type is stated or it is the place of a
block. -/
theorem classify_eq_object_iff (h : propertiesOf members ≠ []) {shape : ObjectShape} :
    Node.classify (some (.obj members)) = .object shape ↔
      (∀ tag, statedType? (Table.get? members "type") = some tag → tag = "object") ∧
        categoryOf members = none ∧ shape = ⟨propertiesOf members, additionalOf members⟩ := by
  have himplied : impliedType members = some "object" := by
    obtain ⟨properties, hproperties, -⟩ := properties_of_ne_nil h
    rw [impliedType, Table.contains, hproperties]
    rfl
  have htype : typeOf members = some "object" ↔
      ∀ tag, statedType? (Table.get? members "type") = some tag → tag = "object" := by
    rw [typeOf_eq, himplied]
    cases statedType? (Table.get? members "type") <;> simp
  rw [Node.classify, ofKeywords_eq_object_iff, htype]

/-! ## Merged keywords -/

/-- **What an object inside a root takes over leaves it the object that it describes**: each of four
keywords is its own, or that of the root does no harm. -/
structure StandsAlone (root own : Value) : Prop where
  direct : own.member? "$ref" = none → reference? root = none
  typed : own.member? "type" = none →
    ∀ tag, statedType? (root.member? "type") = some tag → tag = "object"
  unmarked : own.member? blockKeyword = none → categoryOf (keywordsOf root) = none
  closed : own.member? "additionalProperties" = none → additionalOf (keywordsOf root) = .forbidden

section

variable (hmembers : Table.Distinct members)

include hmembers

/-- The declared keys of an object are its own. -/
theorem propertiesOf_merge (h : propertiesOf members ≠ []) (root : Value) :
    propertiesOf (keywordsOf (merge root (.obj members))) = propertiesOf members := by
  obtain ⟨properties, hproperties, -⟩ := properties_of_ne_nil h
  unfold propertiesOf
  rw [get?_keywordsOf_merge hmembers, hproperties]
  rfl

/-- A merged schema treats other keys as the object does, if it says so, and else as the root does. -/
theorem additionalOf_merge (root : Value) :
    additionalOf (keywordsOf (merge root (.obj members)))
      = if Table.get? members "additionalProperties" = none then additionalOf (keywordsOf root)
        else additionalOf members := by
  unfold additionalOf
  rw [get?_keywordsOf_merge hmembers, ← get?_keywordsOf root]
  cases Table.get? members "additionalProperties" <;> rfl

/-- **The object that a merged schema describes**, if it describes one. -/
theorem classify_merge_iff {shape merged : ObjectShape}
    (hshape : Node.classify (some (.obj members)) = .object shape) (hne : shape.properties ≠ [])
    (root : Value) :
    Node.classify (some (merge root (.obj members))) = .object merged ↔
      (Table.get? members "type" = none →
        ∀ tag, statedType? (root.member? "type") = some tag → tag = "object") ∧
      (Table.get? members blockKeyword = none → categoryOf (keywordsOf root) = none) ∧
      merged = ⟨shape.properties, if Table.get? members "additionalProperties" = none then
        additionalOf (keywordsOf root) else shape.additional⟩ := by
  obtain ⟨found, hfound, hcategory, rfl⟩ := classify_object hshape
  obtain rfl : members = found := Value.obj.inj (Option.some.inj hfound)
  have hproperties := propertiesOf_merge hmembers hne root
  have hmerged : merge root (.obj members) = .obj (keywordsOf (merge root (.obj members))) := rfl
  rw [hmerged, classify_eq_object_iff (hproperties ▸ hne), hproperties, additionalOf_merge hmembers,
    categoryOf_merge hmembers, get?_keywordsOf_merge hmembers]
  refine and_congr ?_ (and_congr ?_ Iff.rfl)
  · have hown := ((classify_eq_object_iff hne).mp hshape).1
    cases htype : Table.get? members "type" with
    | none => simp
    | some stated =>
      rw [htype] at hown
      simpa using hown
  · split
    · rename_i hnone
      simp [hnone]
    · rename_i hsome
      simp [hsome, hcategory]

end

/-- A root that describes an object itself lets an object inside be one. -/
theorem inherits_of_classify {shape : ObjectShape}
    (h : Node.classify (some root) = .object shape) :
    (∀ tag, statedType? (root.member? "type") = some tag → tag = "object") ∧
      categoryOf (keywordsOf root) = none := by
  obtain ⟨found, hfound, hcategory, -⟩ := classify_object h
  obtain rfl := Option.some.inj hfound
  refine ⟨fun tag htag => ?_, hcategory⟩
  obtain ⟨htype, -⟩ := ofKeywords_eq_object_iff.mp h
  have hstated : statedType? (Table.get? found "type") = some tag := htag
  rw [typeOf_eq, hstated] at htype
  exact Option.some.inj htype

end SchemaForms.Schema
