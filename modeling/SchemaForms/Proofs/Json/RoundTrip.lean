import SchemaForms.Json.Reader
import SchemaForms.Proofs.Json.Literals
import SchemaForms.Value.Integral

/-!
# Proofs/Json/RoundTrip — JSON text reads back

The reader follows the writer: at each value it takes exactly the text that was written for it, and
leaves what follows (`readValue_prettyChars`).  The induction is on the value, with its elements and
members; the reader's steps are bounded by the length of the text, and its open brackets by the depth
of the value.
-/

namespace SchemaForms.Json

open Decimal

/-! ## White space -/

theorem skipSpace_cons {c : Char} (hc : isSpace c = false) (rest : List Char) :
    skipSpace (c :: rest) = c :: rest := by
  simp [skipSpace, hc]

theorem skipSpace_newline (level : Nat) (rest : List Char) :
    skipSpace (newline level ++ rest) = skipSpace rest := by
  have hspace : ∀ c ∈ newline level, isSpace c = true := by
    intro c hc
    rcases List.mem_cons.mp hc with rfl | hc
    · rfl
    · rw [(List.mem_replicate.mp hc).2]
      rfl
  rw [skipSpace, List.dropWhile_append_of_pos hspace, skipSpace]

/-! ## How values begin -/

/-- A character that a value can begin with: no white space, and no bracket that ends a sequence. -/
def Opens (c : Char) : Prop := isSpace c = false ∧ c ≠ ']'

theorem opens_of_isDigit {c : Char} (hc : Numeral.isDigit c = true) : Opens c := by
  constructor
  · refine Bool.eq_false_iff.mpr fun hspace => ?_
    simp only [isSpace, Bool.or_eq_true, decide_eq_true_eq] at hspace
    rcases hspace with ((rfl | rfl) | rfl) | rfl <;> exact Bool.false_ne_true hc
  · rintro rfl
    exact Bool.false_ne_true hc

/-- The text of a natural number is a digit and more. -/
theorem natText_eq_cons (n : Nat) :
    ∃ c digits, natText n = c :: digits ∧ Numeral.isDigit c = true := by
  cases htext : natText n with
  | nil => exact absurd htext (natText_ne_nil n)
  | cons c digits =>
    exact ⟨c, digits, rfl, Numeral.isDigit_of_mem_natText (htext ▸ List.mem_cons_self)⟩

/-- **The text of a value begins with the value.** -/
theorem prettyChars_eq_cons {v : Value} (hv : v.Integral) (level : Nat) :
    ∃ c tail, prettyChars level v = c :: tail ∧ Opens c := by
  cases v with
  | null => exact ⟨_, _, rfl, rfl, by decide⟩
  | bool b => cases b <;> exact ⟨_, _, rfl, rfl, by decide⟩
  | num n =>
    cases n with
    | float bits => exact absurd hv nofun
    | int n =>
      rw [prettyChars, numberText, intText]
      split
      · exact ⟨_, _, rfl, rfl, by decide⟩
      · obtain ⟨c, digits, htext, hc⟩ := natText_eq_cons n.natAbs
        exact ⟨c, digits, htext, opens_of_isDigit hc⟩
  | str s => exact ⟨_, _, rfl, rfl, by decide⟩
  | arr items => cases items <;> exact ⟨_, _, rfl, rfl, by decide⟩
  | obj members => rcases members with - | ⟨member, members⟩ <;> exact ⟨_, _, rfl, rfl, by decide⟩

/-- Twice the length of a value's text is fuel for one step at least. -/
theorem exists_fuel {v : Value} (hv : v.Integral) {level fuel : Nat}
    (hfuel : 2 * (prettyChars level v).length ≤ fuel) : ∃ steps, fuel = steps + 1 := by
  obtain ⟨c, tail, htext, -⟩ := prettyChars_eq_cons hv level
  rw [htext, List.length_cons] at hfuel
  exact Nat.exists_eq_add_one.mpr (by omega)

/-! ## One step of the reader -/

variable {fuel room : Nat} {rest : List Char}

/-- **A written integer reads back.** -/
theorem readValue_intText {n : Int} (hn : Number.isWord (.int n) = true) (hrest : Halts rest) :
    readValue (fuel + 1) room (intText n ++ rest) = .ok (.num (.int n), rest) := by
  simp only [Number.isWord, decide_eq_true_eq] at hn
  have hbounds : Numeral.signedBound < Numeral.unsignedBound := by decide
  have hword : n.natAbs < Numeral.unsignedBound := by omega
  rw [intText]
  split
  · have hsign : ¬ (n.natAbs = 0 ∨ Numeral.signedBound < n.natAbs) := by omega
    have habs : -(n.natAbs : Int) = n := by omega
    rw [List.cons_append, readValue, skipSpace_cons rfl]
    simp only [readNumber_natText true hword hrest, integerOf, if_neg hsign, if_true, habs,
      Except.map]
  · have habs : (n.natAbs : Int) = n := by omega
    have hread := readNumber_natText false hword hrest
    obtain ⟨c, digits, htext, hc⟩ := natText_eq_cons n.natAbs
    rw [htext, List.cons_append] at hread ⊢
    rw [readValue, skipSpace_cons (opens_of_isDigit hc).1]
    split
    case h_9 =>
      rename_i heq
      obtain ⟨rfl, rfl⟩ := List.cons.inj heq
      simp only [hc, if_true, hread, integerOf, habs, Except.map, Bool.false_eq_true, if_false]
    all_goals
      rename_i heq
      first
        | (obtain ⟨rfl, -⟩ := List.cons.inj heq; exact absurd hc Bool.false_ne_true)
        | cases heq

/-- The first element of a sequence. -/
theorem nextItem_first (level : Nat) {c : Char} (text : List Char) (hc : Opens c) :
    nextItem true (newline level ++ c :: text) = .ok (some (c :: text)) := by
  simp [nextItem, skipSpace_newline, skipSpace_cons hc.1, hc.2]

/-- A further element of a sequence. -/
theorem nextItem_further (level : Nat) {c : Char} (text : List Char) (hc : Opens c) :
    nextItem false (',' :: (newline level ++ c :: text)) = .ok (some (c :: text)) := by
  have hcomma : skipSpace (',' :: (newline level ++ c :: text)) = ',' :: (newline level ++ c :: text) :=
    rfl
  simp [nextItem, hcomma, skipSpace_newline, skipSpace_cons hc.1, hc.2]

/-- The end of a sequence. -/
theorem nextItem_end (first : Bool) (level : Nat) :
    nextItem first (newline level ++ ']' :: rest) = .ok none := by
  simp [nextItem, skipSpace_newline, skipSpace_cons (show isSpace ']' = false from rfl)]

/-- The first key of an object. -/
theorem nextKey_first (level : Nat) :
    nextKey true (newline level ++ '"' :: rest) = .ok (some rest) := by
  simp [nextKey, skipSpace_newline, skipSpace_cons (show isSpace '"' = false from rfl)]

/-- A further key of an object. -/
theorem nextKey_further (level : Nat) :
    nextKey false (',' :: (newline level ++ '"' :: rest)) = .ok (some rest) := by
  have hcomma : skipSpace (',' :: (newline level ++ '"' :: rest))
      = ',' :: (newline level ++ '"' :: rest) := rfl
  simp [nextKey, hcomma, skipSpace_newline, skipSpace_cons (show isSpace '"' = false from rfl)]

/-- The end of an object. -/
theorem nextKey_end (first : Bool) (level : Nat) :
    nextKey first (newline level ++ '}' :: rest) = .ok none := by
  simp [nextKey, skipSpace_newline, skipSpace_cons (show isSpace '}' = false from rfl)]

/-- An element is read with the elements behind it. -/
theorem readItems_cons {first : Bool} (text : List Char) {back : List Char} {level : Nat}
    {item : Value} {items : List Value}
    (hnext : ∀ c inner, Opens c → nextItem first (text ++ c :: inner) = .ok (some (c :: inner)))
    (hintegral : item.Integral)
    (hitem : readValue fuel room (prettyChars level item ++ back) = .ok (item, back))
    (hitems : readItems fuel room false back = .ok (items, rest)) :
    readItems (fuel + 1) room first (text ++ (prettyChars level item ++ back))
      = .ok (item :: items, rest) := by
  obtain ⟨c, tail, htext, hopens⟩ := prettyChars_eq_cons hintegral level
  have hfound : nextItem first (text ++ (prettyChars level item ++ back))
      = .ok (some (prettyChars level item ++ back)) := by
    rw [htext]
    exact hnext c _ hopens
  simp only [readItems, hfound, hitem, hitems, bind, Except.bind]

/-- A member is read with the members behind it. -/
theorem readMembers_cons {first : Bool} (text : List Char) {front back : List Char} {key : String}
    {value : Value} {members : List (String × Value)}
    (hnext : ∀ inner, nextKey first (text ++ '"' :: inner) = .ok (some inner))
    (hvalue : readValue fuel room (' ' :: front) = .ok (value, back))
    (hmembers : readMembers fuel room false back = .ok (members, rest)) :
    readMembers (fuel + 1) room first (text ++ (quote key ++ ':' :: ' ' :: front))
      = .ok ((key, value) :: members, rest) := by
  obtain ⟨inner, hquote, hkey⟩ := readString_quote key (':' :: ' ' :: front)
  have hcolon : readColon (':' :: ' ' :: front) = .ok (' ' :: front) := rfl
  simp only [hquote, readMembers, hnext, hkey, hcolon, hvalue, hmembers, bind, Except.bind,
    String.ofList_toList]

theorem readItems_end {first : Bool} (hfuel : 0 < fuel) (level : Nat) :
    readItems fuel room first (newline level ++ ']' :: rest) = .ok ([], rest) := by
  obtain ⟨fuel, rfl⟩ := Nat.exists_eq_add_one.mpr hfuel
  simp only [readItems, nextItem_end, bind, Except.bind, skipSpace_newline]
  rfl

theorem readMembers_end {first : Bool} (hfuel : 0 < fuel) (level : Nat) :
    readMembers fuel room first (newline level ++ '}' :: rest) = .ok ([], rest) := by
  obtain ⟨fuel, rfl⟩ := Nat.exists_eq_add_one.mpr hfuel
  simp only [readMembers, nextKey_end, bind, Except.bind, skipSpace_newline]
  rfl

/-- A sequence is read with its elements, one bracket deeper. -/
theorem readValue_bracket {text : List Char} {items : List Value} (hroom : 1 < room)
    (hitems : readItems fuel (room - 1) true text = .ok (items, rest)) :
    readValue (fuel + 1) room ('[' :: text) = .ok (.arr items, rest) := by
  have hopen : ¬ room ≤ 1 := by omega
  rw [readValue, skipSpace_cons rfl]
  simp only [if_neg hopen, hitems, Except.map]

/-- An object is read with its members, one brace deeper. -/
theorem readValue_brace {text : List Char} {members : List (String × Value)} (hroom : 1 < room)
    (hdistinct : Table.Distinct members)
    (hmembers : readMembers fuel (room - 1) true text = .ok (members, rest)) :
    readValue (fuel + 1) room ('{' :: text) = .ok (.obj members, rest) := by
  have hopen : ¬ room ≤ 1 := by omega
  rw [readValue, skipSpace_cons rfl]
  simp only [if_neg hopen, hmembers, Except.map, hdistinct.ofWrites_eq]

/-- White space before a value is skipped. -/
theorem readValue_space (text : List Char) :
    readValue fuel room (' ' :: text) = readValue fuel room text := by
  cases fuel with
  | zero => rfl
  | succ fuel => rfl

/-! ## Values -/

theorem closes_prettyItems (level : Nat) (items : List Value) (rest : List Char) :
    Closes (prettyItems level items ++ rest) := by
  cases items with
  | nil => exact .inr rfl
  | cons item items => exact .inl rfl

theorem closes_prettyMembers (level : Nat) (members : List (String × Value)) (rest : List Char) :
    Closes (prettyMembers level members ++ rest) := by
  rcases members with - | ⟨member, members⟩
  · exact .inr rfl
  · exact .inl rfl

mutual

/-- **The reader takes exactly the text of a value.** -/
theorem readValue_prettyChars : (v : Value) → (level : Nat) → {fuel room : Nat} →
    {rest : List Char} → v.Legible (room - 1) → 2 * (prettyChars level v).length ≤ fuel →
    Closes rest → readValue fuel room (prettyChars level v ++ rest) = .ok (v, rest)
  | .null, level, fuel, room, rest, hv, hfuel, hrest => by
    obtain ⟨fuel, rfl⟩ := exists_fuel hv.integral hfuel
    rfl
  | .bool b, level, fuel, room, rest, hv, hfuel, hrest => by
    obtain ⟨fuel, rfl⟩ := exists_fuel hv.integral hfuel
    cases b <;> rfl
  | .num (.float _), _, _, _, _, hv, _, _ => absurd hv.integral nofun
  | .num (.int n), level, fuel, room, rest, hv, hfuel, hrest => by
    obtain ⟨fuel, rfl⟩ := exists_fuel hv.integral hfuel
    exact readValue_intText hv.integral hrest.halts
  | .str s, level, fuel, room, rest, hv, hfuel, hrest => by
    obtain ⟨fuel, rfl⟩ := exists_fuel hv.integral hfuel
    obtain ⟨inner, hquote, hread⟩ := readString_quote s rest
    rw [prettyChars, hquote, readValue, skipSpace_cons rfl]
    simp only [hread, Except.map, String.ofList_toList]
  | .arr [], level, fuel, room, rest, hv, hfuel, hrest => by
    obtain ⟨fuel, rfl⟩ := Nat.exists_eq_add_of_le' hfuel
    have hroom := hv.of_arr.1
    exact readValue_bracket (by omega) rfl
  | .arr (item :: items), level, fuel, room, rest, hv, hfuel, hrest => by
    obtain ⟨hroom, hlegible⟩ := hv.of_arr
    obtain ⟨hitem, hitems⟩ := List.forall_mem_cons.mp hlegible
    rw [prettyChars] at hfuel ⊢
    simp only [List.length_cons, List.length_append] at hfuel
    obtain ⟨fuel, rfl⟩ := Nat.exists_eq_add_of_le' (by omega : 2 ≤ fuel)
    have hread : readValue fuel (room - 1)
        (prettyChars (level + 1) item ++ (prettyItems level items ++ rest))
          = .ok (item, prettyItems level items ++ rest) :=
      readValue_prettyChars item (level + 1) hitem (by omega) (closes_prettyItems level items rest)
    have hreads : readItems fuel (room - 1) false (prettyItems level items ++ rest)
        = .ok (items, rest) := readItems_prettyItems items level hitems (by omega)
    simp only [List.cons_append, List.append_assoc]
    exact readValue_bracket (by omega) (readItems_cons (newline (level + 1))
      (fun _ inner => nextItem_first (level + 1) inner) hitem.integral hread hreads)
  | .obj [], level, fuel, room, rest, hv, hfuel, hrest => by
    obtain ⟨fuel, rfl⟩ := Nat.exists_eq_add_of_le' hfuel
    have hroom := hv.of_obj.1
    exact readValue_brace (by omega) Table.distinct_nil rfl
  | .obj ((key, value) :: members), level, fuel, room, rest, hv, hfuel, hrest => by
    obtain ⟨hroom, hdistinct, hlegible⟩ := hv.of_obj
    obtain ⟨hvalue, hmembers⟩ := List.forall_mem_cons.mp hlegible
    rw [prettyChars] at hfuel ⊢
    simp only [List.length_cons, List.length_append] at hfuel
    obtain ⟨fuel, rfl⟩ := Nat.exists_eq_add_of_le' (by omega : 2 ≤ fuel)
    have hread : readValue fuel (room - 1)
        (prettyChars (level + 1) value ++ (prettyMembers level members ++ rest))
          = .ok (value, prettyMembers level members ++ rest) :=
      readValue_prettyChars value (level + 1) hvalue (by omega)
        (closes_prettyMembers level members rest)
    have hreads : readMembers fuel (room - 1) false (prettyMembers level members ++ rest)
        = .ok (members, rest) := readMembers_prettyMembers members level hmembers (by omega)
    simp only [List.cons_append, List.append_assoc]
    rw [← readValue_space] at hread
    exact readValue_brace (by omega) hdistinct
      (readMembers_cons (newline (level + 1)) (fun inner => nextKey_first (level + 1)) hread hreads)

/-- The reader takes exactly the further elements and the bracket behind them. -/
theorem readItems_prettyItems : (items : List Value) → (level : Nat) → {fuel room : Nat} →
    {rest : List Char} → (∀ item ∈ items, item.Legible (room - 1)) →
    2 * (prettyItems level items).length ≤ fuel →
    readItems fuel room false (prettyItems level items ++ rest) = .ok (items, rest)
  | [], level, fuel, room, rest, hitems, hfuel => by
    rw [prettyItems] at hfuel ⊢
    simp only [List.length_append, List.length_cons] at hfuel
    rw [List.append_assoc]
    exact readItems_end (by omega) level
  | item :: items, level, fuel, room, rest, hlegible, hfuel => by
    obtain ⟨hitem, hitems⟩ := List.forall_mem_cons.mp hlegible
    rw [prettyItems] at hfuel ⊢
    simp only [List.length_cons, List.length_append] at hfuel
    obtain ⟨fuel, rfl⟩ := Nat.exists_eq_add_one.mpr (by omega : 0 < fuel)
    have hread : readValue fuel room
        (prettyChars (level + 1) item ++ (prettyItems level items ++ rest))
          = .ok (item, prettyItems level items ++ rest) :=
      readValue_prettyChars item (level + 1) hitem (by omega) (closes_prettyItems level items rest)
    have hreads : readItems fuel room false (prettyItems level items ++ rest)
        = .ok (items, rest) := readItems_prettyItems items level hitems (by omega)
    simp only [List.cons_append, List.append_assoc]
    exact readItems_cons (',' :: newline (level + 1))
      (fun _ inner => nextItem_further (level + 1) inner) hitem.integral hread hreads

/-- The reader takes exactly the further members and the brace behind them. -/
theorem readMembers_prettyMembers : (members : List (String × Value)) → (level : Nat) →
    {fuel room : Nat} → {rest : List Char} → (∀ member ∈ members, member.2.Legible (room - 1)) →
    2 * (prettyMembers level members).length ≤ fuel →
    readMembers fuel room false (prettyMembers level members ++ rest) = .ok (members, rest)
  | [], level, fuel, room, rest, hmembers, hfuel => by
    rw [prettyMembers] at hfuel ⊢
    simp only [List.length_append, List.length_cons] at hfuel
    rw [List.append_assoc]
    exact readMembers_end (by omega) level
  | (key, value) :: members, level, fuel, room, rest, hlegible, hfuel => by
    obtain ⟨hvalue, hmembers⟩ := List.forall_mem_cons.mp hlegible
    rw [prettyMembers] at hfuel ⊢
    simp only [List.length_cons, List.length_append] at hfuel
    obtain ⟨fuel, rfl⟩ := Nat.exists_eq_add_one.mpr (by omega : 0 < fuel)
    have hread : readValue fuel room
        (prettyChars (level + 1) value ++ (prettyMembers level members ++ rest))
          = .ok (value, prettyMembers level members ++ rest) :=
      readValue_prettyChars value (level + 1) hvalue (by omega)
        (closes_prettyMembers level members rest)
    have hreads : readMembers fuel room false (prettyMembers level members ++ rest)
        = .ok (members, rest) := readMembers_prettyMembers members level hmembers (by omega)
    simp only [List.cons_append, List.append_assoc]
    rw [← readValue_space] at hread
    exact readMembers_cons (',' :: newline (level + 1))
      (fun inner => nextKey_further (level + 1)) hread hreads

end

/-- **JSON text reads back**, as long as the reader has a bracket for each container. -/
theorem parse_pretty {v : Value} (hv : v.Legible (depthLimit - 1)) : parse (pretty v) = .ok v := by
  have hread : readValue (2 * (prettyChars 0 v).length + 2) depthLimit (prettyChars 0 v ++ [])
      = .ok (v, []) := readValue_prettyChars v 0 hv (by omega) trivial
  rw [List.append_nil] at hread
  have htext : readText (prettyChars 0 v) = .ok v := by
    simp only [readText, hread, bind, Except.bind]
    rfl
  rw [parse, pretty, String.toList_ofList, htext]

end SchemaForms.Json
