import SchemaForms.Value.Regular

/-!
# Value/Integral — values without fractions, and how deep they nest

A text names an integer exactly as long as a word holds it, and a reader opens only so many
containers at once.  `Number.isWord` and `Integral` say the former of a number and of a value with
all its parts, `Value.depth` measures the latter.
-/

namespace SchemaForms

/-- Whether a number is an integer that a word holds, with a sign or without. -/
def Number.isWord : Number → Bool
  | .int n => decide (-(Numeral.signedBound : Int) ≤ n ∧ n < Numeral.unsignedBound)
  | .float _ => false

namespace Value

mutual

/-- Whether every number in a value is an integer that a word holds. -/
def isIntegral : Value → Bool
  | .num n => n.isWord
  | .arr items => areIntegral items
  | .obj members => haveIntegral members
  | _ => true

/-- Whether this holds of all elements. -/
def areIntegral : List Value → Bool
  | [] => true
  | item :: items => isIntegral item && areIntegral items

/-- Whether this holds of all members. -/
def haveIntegral : List (String × Value) → Bool
  | [] => true
  | (_, member) :: members => isIntegral member && haveIntegral members

end

/-- **Every number in the value is an integer that a word holds.** -/
def Integral (value : Value) : Prop := value.isIntegral = true

instance (value : Value) : Decidable (Integral value) := inferInstanceAs (Decidable (_ = true))

mutual

/-- How many containers are open at once, at most. -/
def depth : Value → Nat
  | .arr items => itemsDepth items + 1
  | .obj members => membersDepth members + 1
  | _ => 0

/-- The depth of the deepest element. -/
def itemsDepth : List Value → Nat
  | [] => 0
  | item :: items => max (depth item) (itemsDepth items)

/-- The depth of the deepest member. -/
def membersDepth : List (String × Value) → Nat
  | [] => 0
  | (_, member) :: members => max (depth member) (membersDepth members)

end

theorem areIntegral_iff {items : List Value} :
    areIntegral items = true ↔ ∀ item ∈ items, Integral item := by
  induction items with
  | nil => simp [areIntegral]
  | cons item items ih => simp [areIntegral, ih, Integral]

theorem haveIntegral_iff {members : List (String × Value)} :
    haveIntegral members = true ↔ ∀ member ∈ members, Integral member.2 := by
  induction members with
  | nil => simp [haveIntegral]
  | cons member members ih => simp [haveIntegral, ih, Integral]

theorem itemsDepth_le {items : List Value} {room : Nat} :
    itemsDepth items ≤ room ↔ ∀ item ∈ items, depth item ≤ room := by
  induction items with
  | nil => simp [itemsDepth]
  | cons item items ih => rw [itemsDepth, Nat.max_le, ih, List.forall_mem_cons]

theorem membersDepth_le {members : List (String × Value)} {room : Nat} :
    membersDepth members ≤ room ↔ ∀ member ∈ members, depth member.2 ≤ room := by
  induction members with
  | nil => simp [membersDepth]
  | cons member members ih =>
    rw [membersDepth, Nat.max_le, ih, List.forall_mem_cons]

/-! ## Values that a text can carry -/

/-- **What a text carries exactly**: no key twice in an object, integers only, and no more than
`room` containers open at once. -/
structure Legible (room : Nat) (value : Value) : Prop where
  regular : value.Regular
  integral : value.Integral
  depth_le : value.depth ≤ room

instance (room : Nat) (value : Value) : Decidable (Legible room value) :=
  decidable_of_iff (value.Regular ∧ value.Integral ∧ value.depth ≤ room)
    ⟨fun ⟨h, h', h''⟩ => ⟨h, h', h''⟩, fun ⟨h, h', h''⟩ => ⟨h, h', h''⟩⟩

variable {room : Nat}

theorem Legible.mono {more : Nat} {value : Value} (h : Legible room value) (hle : room ≤ more) :
    Legible more value := ⟨h.regular, h.integral, Nat.le_trans h.depth_le hle⟩

theorem Legible.of_arr {items : List Value} (h : Legible room (.arr items)) :
    1 ≤ room ∧ ∀ item ∈ items, Legible (room - 1) item := by
  obtain ⟨hregular, hintegral, hdepth⟩ := h
  rw [depth] at hdepth
  refine ⟨by omega, fun item hitem => ⟨(regular_arr.mp hregular).2 item hitem, ?_, ?_⟩⟩
  · exact areIntegral_iff.mp hintegral item hitem
  · exact itemsDepth_le.mp (by omega : itemsDepth items ≤ room - 1) item hitem

theorem Legible.of_obj {members : List (String × Value)} (h : Legible room (.obj members)) :
    1 ≤ room ∧ Table.Distinct members ∧ ∀ member ∈ members, Legible (room - 1) member.2 := by
  obtain ⟨hregular, hintegral, hdepth⟩ := h
  rw [depth] at hdepth
  obtain ⟨hdistinct, hmembers⟩ := regular_obj.mp hregular
  refine ⟨by omega, hdistinct, fun member hmember => ⟨hmembers member hmember, ?_, ?_⟩⟩
  · exact haveIntegral_iff.mp hintegral member hmember
  · exact membersDepth_le.mp (by omega : membersDepth members ≤ room - 1) member hmember

end Value

end SchemaForms
