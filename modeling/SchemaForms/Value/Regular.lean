import SchemaForms.Text.Numeral
import SchemaForms.Value.Basic

/-!
# Value/Regular — values as they are held in memory

The members of an object are a list here, and a list may repeat a key or be of any length.  A value
that is held in memory has neither: `Regular` says so of a value and of all its parts.
-/

namespace SchemaForms.Value

mutual

/-- Whether no object in a value has a key twice, and every sequence in it is indexed by words. -/
def isRegular : Value → Bool
  | .arr items => decide (items.length ≤ Numeral.unsignedBound) && areRegular items
  | .obj members => decide (Table.keys members).Nodup && haveRegular members
  | _ => true

/-- Whether this holds of all elements. -/
def areRegular : List Value → Bool
  | [] => true
  | item :: items => isRegular item && areRegular items

/-- Whether this holds of all members. -/
def haveRegular : List (String × Value) → Bool
  | [] => true
  | (_, member) :: members => isRegular member && haveRegular members

end

/-- **No object in the value has a key twice, and every sequence in it is indexed by words.** -/
def Regular (value : Value) : Prop := value.isRegular = true

instance (value : Value) : Decidable (Regular value) := inferInstanceAs (Decidable (_ = true))

theorem areRegular_iff {items : List Value} :
    areRegular items = true ↔ ∀ item ∈ items, Regular item := by
  induction items with
  | nil => simp [areRegular]
  | cons item items ih => simp [areRegular, ih, Regular]

theorem haveRegular_iff {members : List (String × Value)} :
    haveRegular members = true ↔ ∀ member ∈ members, Regular member.2 := by
  induction members with
  | nil => simp [haveRegular]
  | cons member members ih => simp [haveRegular, ih, Regular]

theorem regular_arr {items : List Value} :
    Regular (.arr items) ↔
      items.length ≤ Numeral.unsignedBound ∧ ∀ item ∈ items, Regular item := by
  rw [Regular, isRegular, Bool.and_eq_true, decide_eq_true_iff, areRegular_iff]

theorem regular_obj {members : List (String × Value)} :
    Regular (.obj members) ↔ Table.Distinct members ∧ ∀ member ∈ members, Regular member.2 := by
  rw [Regular, isRegular, Bool.and_eq_true, decide_eq_true_iff, haveRegular_iff]
  rfl

/-- An object stays regular when a member is put into it. -/
theorem Regular.insert {members : List (String × Value)} {value : Value} (h : Regular (.obj members))
    (key : String) (hvalue : Regular value) : Regular (.obj (Table.insert members key value)) := by
  obtain ⟨hdistinct, hparts⟩ := regular_obj.mp h
  refine regular_obj.mpr ⟨hdistinct.insert key value, fun member hmember => ?_⟩
  rcases Table.mem_insert hmember with rfl | hmember
  · exact hvalue
  · exact hparts member hmember

theorem Regular.member? {value member : Value} {key : String} (h : Regular value)
    (hmember : value.member? key = some member) : Regular member := by
  cases value with
  | obj members => exact (regular_obj.mp h).2 _ (Table.mem_of_get? hmember)
  | _ => exact absurd hmember nofun

theorem Regular.item? {value item : Value} {i : Nat} (h : Regular value)
    (hitem : value.item? i = some item) : Regular item := by
  cases value with
  | arr items => exact (regular_arr.mp h).2 _ (List.mem_of_getElem? hitem)
  | _ => exact absurd hitem nofun

end SchemaForms.Value
