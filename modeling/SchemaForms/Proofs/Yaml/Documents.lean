import SchemaForms.Proofs.Yaml.Events
import SchemaForms.Yaml.Reader

/-!
# Proofs/Yaml/Documents — a written value reads back

The events of a value are read as the value: its plain scalars mean what was written (`Says`), its keys
count as text, and its collections nest no deeper than the reader allows.  With the lexer and the
grammar before it, this makes the reader a left inverse of the writer (`parse_write`).
-/

namespace SchemaForms.Yaml

/-! ## Plain scalars -/

namespace Plain

section Numbers

variable {c : Char} {rest : List Char} {n : Nat}

/-- How a written number begins: with a digit, and with a zero only if that is all. -/
theorem exists_natText (n : Nat) :
    ∃ c rest, Decimal.natText n = c :: rest ∧ Numeral.isDigit c = true ∧ (c = '0' → rest = []) := by
  cases htext : Decimal.natText n with
  | nil => exact absurd htext (Decimal.natText_ne_nil n)
  | cons c rest =>
    refine ⟨c, rest, rfl, Numeral.isDigit_of_mem_natText (htext ▸ List.mem_cons_self), ?_⟩
    rintro rfl
    exact Numeral.eq_nil_of_natText htext

/-- Written numbers have no radix mark and no zero in front. -/
theorem marked?_digits (h : c = '0' → rest = []) : marked? (c :: rest) = none := by
  rw [marked?.eq_def]
  split <;> simp_all

theorem isZeroPadded_digits (h : c = '0' → rest = []) (hc : c ≠ '+' ∧ c ≠ '-') :
    isZeroPadded (c :: rest) = false ∧ isZeroPadded ('-' :: c :: rest) = false := by
  have hzero : ∀ text, dropSign text = c :: rest → isZeroPadded text = false := by
    intro text htext
    rw [isZeroPadded, htext]
    split
    · rename_i heq
      obtain ⟨rfl, rfl⟩ := List.cons.inj heq
      rw [h rfl]
      rfl
    · rfl
  refine ⟨hzero _ ?_, hzero _ rfl⟩
  simp [dropSign, hc]

/-- What begins like a number is no null and no boolean. -/
theorem not_word (h : c = '-' ∨ Numeral.isDigit c = true) (rest : List Char) :
    isNull (c :: rest) = false ∧ bool? (c :: rest) = none := by
  have hletters : ['n', 'N', '~', 't', 'T', 'f', 'F'].all
      (fun d => d != '-' && !Numeral.isDigit d) = true := rfl
  have hne : ∀ d ∈ ['n', 'N', '~', 't', 'T', 'f', 'F'], d ≠ c := by
    rintro d hd rfl
    have hletter := List.all_eq_true.mp hletters d hd
    rcases h with rfl | hdigit
    · exact absurd hletter (by decide)
    · simp [hdigit] at hletter
  simp only [List.forall_mem_cons] at hne
  exact ⟨by simp [isNull, hne], by simp [bool?, hne]⟩

/-- The text of a natural number is an integer without a sign. -/
theorem integer?_digits (h : c = '0' → rest = []) (hdigit : Numeral.isDigit c = true)
    (hnatural : Numeral.natural? 10 (c :: rest) = some n) (hn : n < Numeral.unsignedBound) :
    integer? (c :: rest) = some (.int n) := by
  have hsign : c ≠ '+' ∧ c ≠ '-' := by
    constructor <;>
    · rintro rfl
      exact absurd hdigit (by decide)
  have hunsigned : unsigned? (c :: rest) = some n := by
    simp [unsigned?, hsign, marked?_digits h, isZeroPadded_digits h hsign, hnatural]
  rw [integer?, hunsigned]
  simp [Numeral.fitsUnsigned, hn]

/-- Behind a minus sign it is an integer too. -/
theorem integer?_minus (h : c = '0' → rest = []) (hdigit : Numeral.isDigit c = true)
    (hnatural : Numeral.natural? 10 (c :: rest) = some n) (hn : n ≤ Numeral.signedBound) :
    integer? ('-' :: c :: rest) = some (.int (-n)) := by
  have hsign : c ≠ '+' ∧ c ≠ '-' := by
    constructor <;>
    · rintro rfl
      exact absurd hdigit (by decide)
  have hdash : Numeral.digit? 10 '-' = none := by decide
  have hunsigned : unsigned? ('-' :: c :: rest) = none := by
    simp [unsigned?, marked?, isZeroPadded_digits h hsign, Numeral.natural?, Numeral.accumulate, hdash]
  have hnegative : negative? ('-' :: c :: rest) = some n := by
    simp [negative?, marked?_digits h, isZeroPadded_digits h hsign, hnatural]
  rw [integer?, hunsigned]
  simp [hnegative, hn]

end Numbers

/-- **An integer of a word is what its text says.** -/
theorem ofText_intText {n : Int} (hn : (Number.int n).isWord = true) :
    ofText (Decimal.intText n) = .int n := by
  obtain ⟨c, rest, htext, hdigit, hzero⟩ := exists_natText n.natAbs
  have hnatural := Numeral.natural?_natText n.natAbs
  have hword : -(Numeral.signedBound : Int) ≤ n ∧ n < Numeral.unsignedBound := by
    simpa [Number.isWord] using hn
  rw [htext] at hnatural
  rw [Decimal.intText, htext]
  split
  · have hinteger := integer?_minus hzero hdigit hnatural (by omega)
    obtain ⟨hnull, hbool⟩ := not_word (.inl rfl) (c :: rest)
    rw [ofText, hnull, hbool, hinteger, show -(n.natAbs : Int) = n by omega]
    rfl
  · have hinteger := integer?_digits hzero hdigit hnatural (by omega)
    obtain ⟨hnull, hbool⟩ := not_word (.inr hdigit) rest
    rw [ofText, hnull, hbool, hinteger, show (n.natAbs : Int) = n by omega]
    rfl

end Plain

/-- A scalar that is read as a value. -/
def Says (plain : Bool) (text : List Char) (v : Value) : Prop := scalarValue none plain text = .ok v

theorem says_str (s : String) : Says (Lexer.isPlain s.toList false) s.toList (.str s) := by
  rw [Says, scalarValue, Lexer.isPlain]
  by_cases hplain : Style.ofText s.toList false = .plain
  · simp [hplain, plainValue, (unquoted_of_style hplain).2]
  · simp [hplain]

theorem says_int {n : Int} (hn : (Number.int n).isWord = true) :
    Says true (numberText (.int n)) (.num (.int n)) := by
  simp [Says, scalarValue, plainValue, numberText, Plain.ofText_intText hn]

/-! ## Steps -/

/-- The step of a document. -/
def Bare.step : Bare → Step
  | .scalar plain text => .scalar none plain text
  | .sequenceStart => .sequenceStart none
  | .sequenceEnd => .sequenceEnd
  | .mappingStart => .mappingStart none
  | .mappingEnd => .mappingEnd

/-- Without anchors there is nothing to resolve. -/
theorem resolveAliases_bares (bares : List Bare) (place : Nat) (anchors : Anchors) :
    resolveAliases (bares.map Bare.event) place anchors = .ok (bares.map Bare.step, anchors) := by
  induction bares generalizing place with
  | nil => rfl
  | cons bare bares ih =>
    cases bare <;> simp [resolveAliases, Bare.event, Bare.step, Anchors.set, ih, Except.map]

namespace Document

section Reading

variable {document : Document} {fuel room jumps : Nat} {rest : List Step}

/-- The reader takes the steps of a value as it, whatever follows. -/
def Takes (document : Document) (room : Nat) (v : Value) : Prop :=
  ∀ (fuel jumps : Nat) (rest : List Step), (nodeBares v).length ≤ fuel →
    readNode document fuel room ⟨(nodeBares v).map Bare.step ++ rest, jumps⟩ = .ok (v, ⟨rest, jumps⟩)

/-- A node does not begin with the end of a collection. -/
theorem exists_step (v : Value) :
    ∃ step rest, (nodeBares v).map Bare.step = step :: rest ∧ step ≠ .sequenceEnd ∧
      step ≠ .mappingEnd := by
  cases v with
  | bool b => cases b <;> exact ⟨_, _, rfl, nofun, nofun⟩
  | null => exact ⟨_, _, rfl, nofun, nofun⟩
  | num n => exact ⟨_, _, rfl, nofun, nofun⟩
  | str s => exact ⟨_, _, rfl, nofun, nofun⟩
  | arr items => exact ⟨_, _, rfl, nofun, nofun⟩
  | obj members => exact ⟨_, _, rfl, nofun, nofun⟩

theorem takes_scalar {v : Value} {plain : Bool} {text : List Char}
    (hbares : nodeBares v = [.scalar plain text]) (hmeans : Says plain text v) :
    Takes document room v := by
  intro fuel jumps rest hfuel
  rw [hbares] at hfuel ⊢
  obtain ⟨fuel, rfl⟩ := Nat.exists_eq_add_one.mpr hfuel
  have hvalue : scalarValue none plain text = .ok v := hmeans
  simp [readNode, Bare.step, hvalue, Except.map]

/-- The reader takes the entries of a sequence. -/
theorem readItems_bares {items : List Value} (hitems : ∀ item ∈ items, Takes document room item)
    (hfuel : (itemBares items).length < fuel) :
    readItems document fuel room ⟨(itemBares items).map Bare.step ++ .sequenceEnd :: rest, jumps⟩
      = .ok (items, ⟨rest, jumps⟩) := by
  induction items generalizing fuel with
  | nil =>
    obtain ⟨fuel, rfl⟩ := Nat.exists_eq_add_one.mpr (by omega : 0 < fuel)
    rfl
  | cons item items ih =>
    obtain ⟨hitem, hitems⟩ := List.forall_mem_cons.mp hitems
    simp only [itemBares, List.length_append] at hfuel
    obtain ⟨fuel, rfl⟩ := Nat.exists_eq_add_one.mpr (by omega : 0 < fuel)
    obtain ⟨step, more, hsteps, hend, -⟩ := exists_step item
    have hlength := congrArg List.length hsteps
    simp only [List.length_map, List.length_cons] at hlength
    have hread := hitem fuel jumps ((itemBares items).map Bare.step ++ .sequenceEnd :: rest) (by omega)
    rw [hsteps] at hread
    have hreads := ih hitems (by omega : (itemBares items).length < fuel)
    simp only [itemBares, List.map_append, List.append_assoc, hsteps, List.cons_append] at hread ⊢
    cases step <;> first
      | exact absurd rfl hend
      | simp only [readItems, hread, hreads, bind, Except.bind]

theorem readKey_scalar (plain : Bool) (key : String) (hfuel : 0 < fuel) :
    readKey document fuel ⟨.scalar none plain key.toList :: rest, jumps⟩
      = .ok (key, ⟨rest, jumps⟩) := by
  obtain ⟨fuel, rfl⟩ := Nat.exists_eq_add_one.mpr hfuel
  simp [readKey]

/-- The reader takes the entries of a mapping; the text of a key counts. -/
theorem readMembers_bares {members : List (String × Value)}
    (hmembers : ∀ member ∈ members, Takes document room member.2)
    (hfuel : (memberBares members).length < fuel) :
    readMembers document fuel room ⟨(memberBares members).map Bare.step ++ .mappingEnd :: rest, jumps⟩
      = .ok (members, ⟨rest, jumps⟩) := by
  induction members generalizing fuel with
  | nil =>
    obtain ⟨fuel, rfl⟩ := Nat.exists_eq_add_one.mpr (by omega : 0 < fuel)
    rfl
  | cons member members ih =>
    obtain ⟨hvalue, hmembers⟩ := List.forall_mem_cons.mp hmembers
    simp only [memberBares, List.length_cons, List.length_append] at hfuel
    obtain ⟨fuel, rfl⟩ := Nat.exists_eq_add_one.mpr (by omega : 0 < fuel)
    have hread := hvalue fuel jumps ((memberBares members).map Bare.step ++ .mappingEnd :: rest)
      (by omega)
    have hreads := ih hmembers (by omega : (memberBares members).length < fuel)
    simp only [memberBares, List.map_cons, List.map_append, List.append_assoc, List.cons_append,
      Bare.step, readMembers, readKey_scalar _ _ (by omega : 0 < fuel), hread, hreads, bind,
      Except.bind]

end Reading

/-- **The reader takes every value it has room for.** -/
theorem takes (document : Document) : (v : Value) → {room : Nat} → v.Legible room →
    Takes document room v
  | .null, _, _ => takes_scalar rfl rfl
  | .bool true, _, _ => takes_scalar rfl rfl
  | .bool false, _, _ => takes_scalar rfl rfl
  | .num (.int _), _, hv => takes_scalar rfl (says_int hv.integral)
  | .num (.float _), _, hv => absurd hv.integral Bool.false_ne_true
  | .str s, _, _ => takes_scalar rfl (says_str s)
  | .arr items, room, hv => by
    obtain ⟨hroom, hlegible⟩ := hv.of_arr
    have hitems : ∀ item ∈ items, Takes document (room - 1) item :=
      fun item hitem => takes document item (hlegible item hitem)
    have hopen : ¬ room = 0 := by omega
    intro fuel jumps rest hfuel
    simp only [nodeBares, List.length_cons, List.length_append, List.length_nil] at hfuel
    obtain ⟨fuel, rfl⟩ := Nat.exists_eq_add_one.mpr (by omega : 0 < fuel)
    have hread : readItems document fuel (room - 1)
        ⟨(itemBares items).map Bare.step ++ .sequenceEnd :: rest, jumps⟩ = .ok (items, ⟨rest, jumps⟩) :=
      readItems_bares hitems (by omega)
    simp [readNode, nodeBares, Bare.step, hopen, hread, Except.map]
  | .obj members, room, hv => by
    obtain ⟨hroom, hdistinct, hlegible⟩ := hv.of_obj
    have hmembers : ∀ member ∈ members, Takes document (room - 1) member.2 :=
      fun member hmember => takes document member.2 (hlegible member hmember)
    have hopen : ¬ room = 0 := by omega
    intro fuel jumps rest hfuel
    simp only [nodeBares, List.length_cons, List.length_append, List.length_nil] at hfuel
    obtain ⟨fuel, rfl⟩ := Nat.exists_eq_add_one.mpr (by omega : 0 < fuel)
    have hread : readMembers document fuel (room - 1)
        ⟨(memberBares members).map Bare.step ++ .mappingEnd :: rest, jumps⟩
          = .ok (members, ⟨rest, jumps⟩) := readMembers_bares hmembers (by omega)
    simp [readNode, nodeBares, Bare.step, hopen, hread, Except.map, hdistinct.ofWrites_eq]

end Document

/-- **YAML text reads back**, as long as the reader allows as many open collections. -/
theorem parse_write {v : Value} (hv : v.Legible Document.depthLimit) : parse (write v) = .ok v := by
  have hempty : ((nodeBares v).map Bare.event).isEmpty = false := by
    obtain ⟨step, rest, hsteps, -⟩ := Document.exists_step v
    cases hbares : nodeBares v with
    | nil => rw [hbares] at hsteps; exact absurd hsteps nofun
    | cons bare bares => rfl
  have hvalue : Document.value ⟨(nodeBares v).map Bare.step, ⟨[], []⟩⟩ = .ok v := by
    have hread := Document.takes ⟨(nodeBares v).map Bare.step, ⟨[], []⟩⟩ v hv
      ((Document.depthLimit + 2) * ((nodeBares v).length + 2)) ((nodeBares v).length * 100) []
      (by simp only [Document.depthLimit]; omega)
    rw [List.append_nil] at hread
    simp only [Document.value, Document.jumpLimit, List.length_map, hread]
    rfl
  have htext : readText (nodeText 0 .top v) = .ok v := by
    simp only [readText, ofText_nodeText hv.integral, Event.ofTokens_nodeTokens, hempty,
      resolveAliases_bares, hvalue, bind, Except.bind]
    rfl
  rw [parse, write, String.toList_ofList, htext]

end SchemaForms.Yaml
