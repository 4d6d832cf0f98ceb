import Mathlib.Data.List.TakeWhile
import SchemaForms.Proofs.Json.RoundTrip
import SchemaForms.Proofs.Session.Keystrokes

/-!
# Proofs/Session/NumberFields — integers in number fields and in JSON text

A number field reads a text as an integer if a signed word holds it, and else as a double.  JSON text
reads integers that an unsigned word holds, too.  So a field keeps the integers below `2^63`, as JSON
text does, and rounds those from there on, which JSON text keeps (`number_fields_keep_integers`).
-/

namespace SchemaForms

open Decimal

/-! ## Large words as doubles -/

namespace Binary64

theorem ne_zero_of_large {n : Nat} (hlow : Numeral.signedBound ≤ n) : n ≠ 0 := by
  rintro rfl
  exact absurd hlow (by decide)

/-- The doubles around the words that no signed word holds are `2^11` apart. -/
theorem lastPlace_of_large {n : Nat} (hlow : Numeral.signedBound ≤ n)
    (hhigh : n < Numeral.unsignedBound) : lastPlace n 1 = 11 := by
  have hlog : n.log2 = 63 := (Nat.log2_eq_iff (ne_zero_of_large hlow)).mpr ⟨hlow, hhigh⟩
  have hlogOne : Nat.log2 1 = 0 := by decide
  have hguess : ((63 : Nat) : Int) - ((0 : Nat) : Int) - 52 = 11 := by decide
  have hlarge : ¬ n < 1 <<< (11 : Int).toNat * hiddenBit := Nat.not_lt.mpr hlow
  unfold lastPlace
  rw [hlog, hlogOne, hguess]
  simp only [show (0 : Int) ≤ 11 by decide, if_true, if_neg hlarge]
  decide

theorem divNearestEven_le (num den : Nat) : divNearestEven num den ≤ num / den + 1 := by
  unfold divNearestEven
  dsimp only
  split
  · omega
  · split
    · omega
    · split <;> omega

/-- **A word is near a finite double**, also one that no signed word holds. -/
theorem ofNat_lt_infinity {n : Nat} (hlow : Numeral.signedBound ≤ n)
    (hhigh : n < Numeral.unsignedBound) : ofNat n < infinity := by
  have hround := divNearestEven_le n (1 <<< (11 : Int).toNat)
  have hquotient : n / (1 <<< (11 : Int).toNat) < 2 * hiddenBit :=
    Nat.div_lt_of_lt_mul hhigh
  rw [ofNat, nearest, if_neg (ne_zero_of_large hlow), lastPlace_of_large hlow hhigh]
  refine Nat.lt_of_le_of_lt (Nat.min_le_left _ _) ?_
  simp only [show (0 : Int) ≤ 11 by decide, if_true]
  have hexponent : ((11 : Int) + 1074).toNat = 1085 := by decide
  rw [hexponent]
  unfold infinity hiddenBit at *
  omega

end Binary64

/-! ## White space around a number -/

namespace Text

/-- **What stands between blanks is what is left of a text**, if there are none in it. -/
theorem trim_append {before body after : List Char}
    (hbefore : ∀ c ∈ before, isBlank c = true) (hbody : ∀ c ∈ body, isBlank c = false)
    (hafter : ∀ c ∈ after, isBlank c = true) (hne : body ≠ []) :
    trim (before ++ body ++ after) = body := by
  obtain ⟨first, rest, rfl⟩ := List.exists_cons_of_ne_nil hne
  have hfront : (before ++ (first :: rest) ++ after).dropWhile isBlank = first :: rest ++ after := by
    rw [List.append_assoc, List.dropWhile_append_of_pos hbefore, List.cons_append,
      List.dropWhile_cons_of_neg (by simp [hbody first List.mem_cons_self])]
  have hback : ∀ c ∈ after.reverse, isBlank c = true := fun c hc => hafter c (List.mem_reverse.mp hc)
  obtain ⟨last, front, hreverse⟩ := List.exists_cons_of_ne_nil
    (List.reverse_ne_nil_iff.mpr (List.cons_ne_nil first rest))
  have hlast : isBlank last = false :=
    hbody last (List.mem_reverse.mp (hreverse ▸ List.mem_cons_self))
  rw [trim, hfront, trimEnd, List.reverse_append, List.dropWhile_append_of_pos hback, hreverse,
    List.dropWhile_cons_of_neg (by simp [hlast]), ← hreverse, List.reverse_reverse]

/-- No character of a written integer is blank. -/
theorem isBlank_of_mem_intText {n : Int} {c : Char} (hc : c ∈ intText n) : isBlank c = false := by
  have hdigit : ∀ d < 10, isBlank (digitChar d) = false := by decide
  have hnat : c ∈ natText n.natAbs → isBlank c = false := by
    intro hc
    obtain ⟨d, hd, rfl⟩ := mem_natText hc
    exact hdigit d hd
  rw [intText] at hc
  split at hc
  · rcases List.mem_cons.mp hc with rfl | hc
    · rfl
    · exact hnat hc
  · exact hnat hc

end Text

namespace Json

variable {n : Int} {c : Char} {before after rest : List Char}

/-- No number goes on with a blank. -/
theorem isDigit_of_isBlank (hc : Text.isBlank c = true) : Numeral.isDigit c = false := by
  refine Bool.eq_false_iff.mpr fun hdigit => ?_
  have hcode := Numeral.toNat_of_isDigit hdigit
  simp only [Text.isBlank, Bool.or_eq_true, Bool.and_eq_true, decide_eq_true_eq, beq_iff_eq] at hc
  omega

theorem halts_of_isBlank (hrest : ∀ c ∈ rest, Text.isBlank c = true) : Halts rest := by
  intro c hc
  have hblank := hrest c (List.mem_of_mem_head? hc)
  refine ⟨isDigit_of_isBlank hblank, ?_, ?_, ?_⟩ <;> rintro rfl <;>
    exact Bool.false_ne_true hblank

/-- White space in front of a value does not matter. -/
theorem readValue_congr {text other : List Char} (h : skipSpace text = skipSpace other)
    (fuel room : Nat) : readValue fuel room text = readValue fuel room other := by
  cases fuel with
  | zero => rfl
  | succ fuel => rw [readValue, readValue, h]

/-- A blank that is no white space of JSON text is no value. -/
theorem readValue_blank (hc : Text.isBlank c = true) (hspace : isSpace c = false) (fuel room : Nat)
    (rest : List Char) : ∃ failure, readValue fuel room (c :: rest) = .error failure := by
  cases fuel with
  | zero => exact ⟨_, rfl⟩
  | succ fuel =>
    rw [readValue, skipSpace_cons hspace]
    split
    case h_9 =>
      rename_i heq
      obtain ⟨rfl, rfl⟩ := List.cons.inj heq
      rw [isDigit_of_isBlank hc]
      exact ⟨_, rfl⟩
    all_goals
      rename_i heq
      first
        | (obtain ⟨rfl, -⟩ := List.cons.inj heq; exact absurd hc Bool.false_ne_true)
        | cases heq

/-- Blanks that are not all white space of JSON text leave one behind that is none. -/
theorem skipSpace_blanks (hblank : ∀ c ∈ before, Text.isBlank c = true)
    (hspace : ¬ ∀ c ∈ before, isSpace c = true) (text : List Char) :
    ∃ c rest, Text.isBlank c = true ∧ isSpace c = false ∧
      skipSpace (before ++ text) = c :: rest := by
  induction before with
  | nil => exact absurd nofun hspace
  | cons c before ih =>
    obtain ⟨hc, hbefore⟩ := List.forall_mem_cons.mp hblank
    cases hfirst : isSpace c with
    | false => exact ⟨c, before ++ text, hc, hfirst, skipSpace_cons hfirst _⟩
    | true =>
      obtain ⟨d, rest, hd, hother, hskip⟩ := ih hbefore fun h =>
        hspace (List.forall_mem_cons.mpr ⟨hfirst, h⟩)
      refine ⟨d, rest, hd, hother, ?_⟩
      rw [List.cons_append, skipSpace, List.dropWhile_cons_of_pos hfirst]
      exact hskip

/-- **An integer in a JSON text may stand between white space**, and between no other blanks. -/
theorem readText_intText_iff (hn : Number.isWord (.int n) = true)
    (hbefore : ∀ c ∈ before, Text.isBlank c = true) (hafter : ∀ c ∈ after, Text.isBlank c = true) :
    readText (before ++ intText n ++ after) = .ok (.num (.int n)) ↔
      ∀ c ∈ before ++ after, isSpace c = true := by
  rw [List.append_assoc, List.forall_mem_append]
  by_cases hfront : ∀ c ∈ before, isSpace c = true
  · rw [and_iff_right hfront]
    have hskip : skipSpace (before ++ (intText n ++ after)) = skipSpace (intText n ++ after) :=
      List.dropWhile_append_of_pos hfront
    unfold readText
    rw [readValue_congr hskip, readValue_intText hn (halts_of_isBlank hafter)]
    simp only [bind, Except.bind]
    by_cases hback : ∀ c ∈ after, isSpace c = true
    · rw [show skipSpace after = [] from List.dropWhile_eq_nil_iff.mpr hback]
      exact iff_of_true rfl hback
    · obtain ⟨c, rest, -, -, hskip⟩ := skipSpace_blanks hafter hback []
      rw [List.append_nil] at hskip
      rw [hskip]
      exact iff_of_false nofun hback
  · refine iff_of_false (fun hread => ?_) fun h => hfront h.1
    obtain ⟨c, rest, hc, hspace, hskip⟩ := skipSpace_blanks hbefore hfront (intText n ++ after)
    obtain ⟨failure, hfails⟩ := readValue_blank hc hspace
      (2 * (before ++ (intText n ++ after)).length + 2) depthLimit rest
    rw [← readValue_congr (hskip.trans (skipSpace_cons hspace rest).symm)] at hfails
    unfold readText at hread
    rw [hfails] at hread
    cases hread

theorem read_eq_ok_iff {text : List Char} {v : Value} :
    Format.json.read (String.ofList text) = .ok v ↔ readText text = .ok v := by
  rw [Format.read, parse, String.toList_ofList]
  cases readText text <;> simp [Except.mapError]

end Json

namespace Session

variable {session next : Session} {path : Path} {n : Int} {before after : List Char}

/-- **What a number field makes of an integer**: it keeps what a signed word holds, and takes the
nearest double for the rest. -/
def entered (n : Int) : Value :=
  if n < Numeral.signedBound then .num (.int n)
  else .num (.float (Binary64.withSign false (Binary64.ofNat n.natAbs)))

theorem entered_eq_iff : entered n = .num (.int n) ↔ n < Numeral.signedBound := by
  unfold entered
  split <;> simp_all

/-- **What a number field makes of the text of an integer**, with any white space around it. -/
theorem numberOfText_intText (hn : Number.isWord (.int n) = true)
    (hbefore : ∀ c ∈ before, Text.isBlank c = true) (hafter : ∀ c ∈ after, Text.isBlank c = true) :
    numberOfText (String.ofList (before ++ intText n ++ after)) = entered n := by
  simp only [Number.isWord, decide_eq_true_eq] at hn
  have hne : intText n ≠ [] := by
    rw [intText]
    split
    · exact List.cons_ne_nil _ _
    · exact natText_ne_nil _
  have htrim : Text.trim (before ++ intText n ++ after) = intText n :=
    Text.trim_append hbefore (fun c hc => Text.isBlank_of_mem_intText hc) hafter hne
  unfold numberOfText entered
  rw [String.toList_ofList, htrim]
  dsimp only
  rw [Numeral.integer?_intText]
  by_cases hsmall : n < Numeral.signedBound
  · have hfits : Numeral.fitsSigned n = true := by
      rw [Numeral.fitsSigned, decide_eq_true_eq]
      exact ⟨hn.1, hsmall⟩
    rw [if_pos hfits, if_pos hsmall]
  · have hfits : ¬ Numeral.fitsSigned n = true := by
      rw [Numeral.fitsSigned, decide_eq_true_eq]
      exact fun h => hsmall h.2
    have hlarge : Binary64.ofNat n.natAbs < Binary64.infinity :=
      Binary64.ofNat_lt_infinity (by omega) (by omega)
    have hnatural : intText n = natText n.natAbs := if_neg (by omega)
    rw [if_neg hfits, if_neg hsmall, hnatural, Numeral.double?_natText hlarge]

/-- An input that stands for a value writes it where the path is near, and nowhere else. -/
theorem input?_eq_some_iff {input : FieldInput} {value : Value} (hvalue : input.value? = some value) :
    session.input? path input = some next ↔ session.store.checkPadding path = .ok () ∧
      next = { session with
        store := session.store.commit (Document.write session.store.document path value) path
          .interactive } := by
  rw [← write_eq_ok, input?, hvalue, Option.bind_some]
  cases session.write path value <;> simp [Except.toOption]

/-- **A number field keeps integers below `2^63`, and JSON text keeps them all.**  The text of an
integer that a document can hold, with any white space around it, is taken by a number field wherever
a value can be put.  Then the field holds that integer if it is below `2^63`, and from there on the
double next to it.  As JSON text it reads as the integer, also with white space around it, as long as
that is white space of JSON text. -/
theorem number_fields_keep_integers (session : Session) (path : Path) {n : Int}
    (hn : Number.isWord (.int n) = true) {before after : List Char}
    (hbefore : ∀ c ∈ before, Text.isBlank c = true) (hafter : ∀ c ∈ after, Text.isBlank c = true) :
    let text := String.ofList (before ++ intText n ++ after)
    ((∃ next, session.input? path (.number text) = some next) ↔
      session.store.checkPadding path = .ok ()) ∧
    (∀ next, session.input? path (.number text) = some next →
      next.value? path = some (entered n) ∧
      (next.value? path = some (.num (.int n)) ↔ n < Numeral.signedBound)) ∧
    Format.json.read (String.ofList (intText n)) = .ok (.num (.int n)) ∧
    (Format.json.read text = .ok (.num (.int n)) ↔
      ∀ c ∈ before ++ after, Json.isSpace c = true) := by
  intro text
  have hvalue : (FieldInput.number text).value? = some (entered n) :=
    congrArg some (numberOfText_intText hn hbefore hafter)
  refine ⟨?_, fun next hinput => ?_, ?_, ?_⟩
  · simp only [input?_eq_some_iff hvalue, exists_and_left, exists_eq, and_true]
  · obtain ⟨-, hnext⟩ := (input?_eq_some_iff hvalue).mp hinput
    have hentered : next.value? path = some (entered n) := by
      rw [hnext]
      exact Document.read?_write_self _ _ _
    refine ⟨hentered, ?_⟩
    rw [hentered, Option.some.injEq, entered_eq_iff]
  · have hplain := @Json.readText_intText_iff n [] [] hn nofun nofun
    rw [List.nil_append, List.append_nil] at hplain
    exact Json.read_eq_ok_iff.mpr (hplain.mpr nofun)
  · exact Json.read_eq_ok_iff.trans (Json.readText_intText_iff hn hbefore hafter)

/-- The least integer of a signed word is kept, between blanks of which one is no white space of JSON
text; the greatest of an unsigned word is not kept by the field, but by JSON text. -/
theorem number_fields_keep_integers_extreme :
    let path := Path.root.child "retries"
    let session := ofDocument .default (.obj [("root", .obj [])])
    let least : Int := -9223372036854775808
    let greatest : Int := 18446744073709551615
    let spaced (n : Int) := String.ofList (['\u00a0', '\t'] ++ intText n ++ ['\n'])
    let lined (n : Int) := String.ofList (['\t'] ++ intText n ++ ['\n'])
    (∃ next, session.input? path (.number (spaced least)) = some next ∧
      next.value? path = some (.num (.int least))) ∧
    Format.json.read (spaced least) ≠ .ok (.num (.int least)) ∧
    (∃ next, session.input? path (.number (lined greatest)) = some next ∧
      next.value? path ≠ some (.num (.int greatest))) ∧
    Format.json.read (lined greatest) = .ok (.num (.int greatest)) := by
  intro path session least greatest spaced lined
  obtain ⟨htaken, hfield, -, htext⟩ := @number_fields_keep_integers session path least (by decide)
    ['\u00a0', '\t'] ['\n'] (List.all_eq_true.mp rfl) (List.all_eq_true.mp rfl)
  obtain ⟨htaken', hfield', -, htext'⟩ := @number_fields_keep_integers session path greatest
    (by decide) ['\t'] ['\n'] (List.all_eq_true.mp rfl) (List.all_eq_true.mp rfl)
  obtain ⟨next, hnext⟩ := htaken.mpr rfl
  obtain ⟨next', hnext'⟩ := htaken'.mpr rfl
  refine ⟨⟨next, hnext, (hfield next hnext).2.mpr (by decide)⟩, ?_, ⟨next', hnext', ?_⟩,
    htext'.mpr (List.all_eq_true.mp rfl)⟩
  · exact fun hread => absurd (htext.mp hread '\u00a0' List.mem_cons_self) (by decide)
  · exact fun hkept => absurd ((hfield' next' hnext').2.mp hkept) (by decide)

/-- **A number field rounds an integer that JSON text keeps.** -/
theorem number_fields_round_integers :
    let path := Path.root.child "retries"
    let session := ofDocument .default (.obj [("root", .obj [])])
    let text := "9223372036854775809"
    text.toList = intText 9223372036854775809 ∧
    (∃ next, session.input? path (.number text) = some next ∧
      next.value? path = some (.num (.float 0x43E0000000000000)) ∧
      next.value? path ≠ some (.num (.int 9223372036854775809))) ∧
    Format.json.read text = .ok (.num (.int 9223372036854775809)) := by
  intro path session text
  exact ⟨by decide +kernel, ⟨_, rfl, by decide +kernel, by decide +kernel⟩, by decide +kernel⟩

end Session

end SchemaForms
