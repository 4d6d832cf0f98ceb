import SchemaForms.Table

/-!
# Value/Basic — document values

A document is a tree of scalars, sequences and objects.  Objects keep the order of their members,
and a number is either an integer or a finite double, never a mixture: `1` and `1.0` are different
values.  Equality is decidable (`Value.instDecidableEq`).
-/

namespace SchemaForms

/-- A number of a document: an integer, or a finite double given by its bit pattern. -/
inductive Number where
  | int (n : Int)
  | float (bits : UInt64)
  deriving DecidableEq, Inhabited

/-- A document value. -/
inductive Value where
  | null
  | bool (b : Bool)
  | num (n : Number)
  | str (s : String)
  | arr (items : List Value)
  | obj (members : List (String × Value))
  deriving Inhabited

namespace Value

/-! ## Equality -/

mutual

/-- Structural equality test. -/
def same : Value → Value → Bool
  | .null, .null => true
  | .bool a, .bool b => decide (a = b)
  | .num a, .num b => decide (a = b)
  | .str a, .str b => decide (a = b)
  | .arr a, .arr b => sameItems a b
  | .obj a, .obj b => sameMembers a b
  | _, _ => false

/-- Structural equality test, element by element. -/
def sameItems : List Value → List Value → Bool
  | [], [] => true
  | a :: as, b :: bs => same a b && sameItems as bs
  | _, _ => false

/-- Structural equality test, member by member. -/
def sameMembers : List (String × Value) → List (String × Value) → Bool
  | [], [] => true
  | (k, a) :: as, (l, b) :: bs => decide (k = l) && (same a b && sameMembers as bs)
  | _, _ => false

end

mutual

theorem same_iff : (a b : Value) → (same a b = true ↔ a = b)
  | .null, b => by cases b <;> simp [same]
  | .bool _, b => by cases b <;> simp [same]
  | .num _, b => by cases b <;> simp [same]
  | .str _, b => by cases b <;> simp [same]
  | .arr as, b => by cases b <;> simp [same, sameItems_iff as]
  | .obj as, b => by cases b <;> simp [same, sameMembers_iff as]

theorem sameItems_iff : (as bs : List Value) → (sameItems as bs = true ↔ as = bs)
  | [], bs => by cases bs <;> simp [sameItems]
  | a :: as, bs => by cases bs <;> simp [sameItems, same_iff a, sameItems_iff as]

theorem sameMembers_iff : (as bs : List (String × Value)) → (sameMembers as bs = true ↔ as = bs)
  | [], bs => by cases bs <;> simp [sameMembers]
  | (_, a) :: as, bs => by
    cases bs with
    | nil => simp [sameMembers]
    | cons b bs => simp [sameMembers, same_iff a, sameMembers_iff as, Prod.ext_iff, and_assoc]

end

instance instDecidableEq : DecidableEq Value := fun a b =>
  decidable_of_iff (same a b = true) (same_iff a b)

/-! ## Views -/

/-- The text of a string value. -/
def asText? : Value → Option String
  | .str s => some s
  | _ => none

/-- The elements of a sequence. -/
def asItems? : Value → Option (List Value)
  | .arr items => some items
  | _ => none

/-- The members of an object. -/
def asMembers? : Value → Option (List (String × Value))
  | .obj members => some members
  | _ => none

/-- The member `key`, when the value is an object that has it. -/
def member? : Value → String → Option Value
  | .obj members, key => Table.get? members key
  | _, _ => none

/-- The element at `index`, when the value is a sequence that reaches that far. -/
def item? : Value → Nat → Option Value
  | .arr items, index => items[index]?
  | _, _ => none

/-- The empty object. -/
def emptyObject : Value := .obj []

/-- A text, or `null` for a missing one. -/
def textOrNull (text : Option String) : Value := (text.map Value.str).getD .null

/-- Whether the value is `null`. -/
def isNull : Value → Bool
  | .null => true
  | _ => false

end Value

end SchemaForms
