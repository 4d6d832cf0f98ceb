import SchemaForms.Json.Literal
import SchemaForms.Json.Writer
import SchemaForms.Proofs.Decimal.Notation

/-!
# Proofs/Json/Literals — strings and numbers of JSON text read back

A string is read back character by character: what stands for a character is read as it, with the
rest of the text behind it untouched (`readString_escape`).  An integer is read back if nothing in
the text behind it goes on with the number (`Halts`), as no text does that the writer puts there.
-/

namespace SchemaForms.Json

open Decimal

/-! ## Strings -/

/-- The value of a written hexadecimal digit. -/
theorem digit?_hexDigit {d : Nat} (hd : d < 16) :
    Numeral.digit? 16 (hexDigit d) = some d ∧ (hexDigit d).utf8Size = 1 := by
  revert d
  decide

/-- The four digits of a control character. -/
theorem readCodeUnit_control {n : Nat} (hn : n < 0x20) (rest : List Char) :
    readCodeUnit ('0' :: '0' :: hexDigit (n / 16) :: hexDigit (n % 16) :: rest) = .ok n := by
  obtain ⟨hhigh, hhighSize⟩ := digit?_hexDigit (show n / 16 < 16 by omega)
  obtain ⟨hlow, hlowSize⟩ := digit?_hexDigit (show n % 16 < 16 by omega)
  have hbytes : byteCount ['0', '0', hexDigit (n / 16), hexDigit (n % 16)] = 4 := by
    simp only [byteCount, List.foldl_cons, List.foldl_nil, hhighSize, hlowSize]
    rfl
  have hzero : Numeral.digit? 16 '0' = some 0 := rfl
  have hvalue : codeUnit? ('0' :: '0' :: hexDigit (n / 16) :: hexDigit (n % 16) :: rest)
      = some n := by
    simp only [codeUnit?, Numeral.natural?, Numeral.accumulate, hzero, hhigh, hlow]
    congr 1
    omega
  simp only [readCodeUnit, List.take_succ_cons, List.take_zero, hbytes, hvalue, Nat.lt_irrefl,
    if_false]

/-- The escape of a control character is read as it. -/
theorem readUnicodeEscape_control {c : Char} (hc : c.toNat < 0x20) (rest : List Char) :
    readUnicodeEscape ('0' :: '0' :: hexDigit (c.toNat / 16) :: hexDigit (c.toNat % 16) :: rest)
      = .ok (c, 4) := by
  have hlone : ¬ (0xDC00 ≤ c.toNat ∧ c.toNat ≤ 0xDFFF) := by omega
  have hsingle : c.toNat < 0xD800 ∨ 0xDBFF < c.toNat := by omega
  simp only [readUnicodeEscape, readCodeUnit_control hc rest, bind, Except.bind, if_neg hlone,
    if_pos hsingle, Char.ofNat_toNat]

/-- **What stands for a character in a string is read as it.** -/
theorem readString_escape (c : Char) (rest : List Char) :
    readString 0 (escape c ++ rest) = (readString 0 rest).map (prepend c) := by
  rw [escape]
  -- one case for each of the short escapes, then `\u`, then the character itself
  repeat' split
  all_goals try (subst_vars; rfl)
  · rename_i hcontrol
    simp only [List.cons_append, List.nil_append, readString, readEscape,
      readUnicodeEscape_control hcontrol, Except.map]
    rfl
  · rename_i hquote hslash _ _ _ _ _ hcontrol
    simp only [List.cons_append, List.nil_append, readString, hquote, hslash, hcontrol, if_false]

/-- **A written string reads back**, up to its closing quote. -/
theorem readString_flatMap (text rest : List Char) :
    readString 0 (text.flatMap escape ++ '"' :: rest) = .ok (text, rest) := by
  induction text with
  | nil => rfl
  | cons c text ih =>
    rw [List.flatMap_cons, List.append_assoc, readString_escape, ih]
    rfl

/-- A string in quotes reads back behind its opening quote. -/
theorem readString_quote (text : String) (rest : List Char) :
    ∃ inner, quote text ++ rest = '"' :: inner ∧ readString 0 inner = .ok (text.toList, rest) := by
  refine ⟨text.toList.flatMap escape ++ '"' :: rest, ?_, readString_flatMap _ rest⟩
  simp [quote]

/-! ## Numbers -/

/-- Nothing here goes on with a number: no digit is next, no point and no exponent. -/
def Halts (rest : List Char) : Prop :=
  ∀ c ∈ rest.head?, Numeral.isDigit c = false ∧ c ≠ '.' ∧ c ≠ 'e' ∧ c ≠ 'E'

/-- What the writer puts behind a number: the text ends, or a comma or a line break is next. -/
def Closes : List Char → Prop
  | [] => True
  | c :: _ => c = ',' ∨ c = '\n'

theorem Closes.halts {rest : List Char} (h : Closes rest) : Halts rest := by
  cases rest with
  | nil => exact nofun
  | cons c rest =>
    rintro _ ⟨⟩
    rcases h with rfl | rfl <;> decide

/-- Reading digits never makes the number smaller. -/
theorem le_of_accumulate {text : List Char} {acc n : Nat}
    (h : Numeral.accumulate 10 text acc = some n) : acc ≤ n := by
  induction text generalizing acc with
  | nil =>
    obtain rfl := Option.some.inj h
    exact Nat.le_refl _
  | cons c rest ih =>
    rw [Numeral.accumulate] at h
    split at h
    · have := ih h
      omega
    · cases h

/-- Digits that make up a word are all taken into the significand. -/
theorem absorb_of_accumulate {text : List Char} {acc n : Nat}
    (h : Numeral.accumulate 10 text acc = some n) (hn : n < Numeral.unsignedBound) :
    absorb acc text = (n, []) := by
  induction text generalizing acc with
  | nil =>
    obtain rfl := Option.some.inj h
    rfl
  | cons c rest ih =>
    rw [Numeral.accumulate] at h
    split at h
    · rename_i d hd
      have hfits : Numeral.fitsUnsigned (acc * 10 + d) = true := by
        have := le_of_accumulate h
        simp only [Numeral.fitsUnsigned, decide_eq_true_eq]
        omega
      simp only [absorb, hd, Option.getD_some, hfits, if_true]
      exact ih h
    · cases h

/-- **A written natural number reads back**, with its sign before it. -/
theorem readNumber_natText (negative : Bool) {n : Nat} (hn : n < Numeral.unsignedBound)
    {rest : List Char} (hrest : Halts rest) :
    readNumber negative (natText n ++ rest) = .ok (integerOf negative n, rest) := by
  have habsorb : absorb 0 (natText n) = (n, []) := by
    have hread := Numeral.accumulate_natText n 0
    rw [Nat.zero_mul, Nat.zero_add] at hread
    exact absorb_of_accumulate hread hn
  have hstop : rest.takeWhile Numeral.isDigit = [] ∧ rest.dropWhile Numeral.isDigit = rest := by
    cases rest with
    | nil => exact ⟨rfl, rfl⟩
    | cons c rest => simp [(hrest c rfl).1]
  have htake : (natText n ++ rest).takeWhile Numeral.isDigit = natText n := by
    rw [List.takeWhile_append_of_pos fun c hc => Numeral.isDigit_of_mem_natText hc, hstop.1,
      List.append_nil]
  have hdrop : (natText n ++ rest).dropWhile Numeral.isDigit = rest := by
    rw [List.dropWhile_append_of_pos fun c hc => Numeral.isDigit_of_mem_natText hc, hstop.2]
  cases htext : natText n with
  | nil => exact absurd htext (natText_ne_nil n)
  | cons c digits =>
    have hdigit : Numeral.isDigit c = true :=
      Numeral.isDigit_of_mem_natText (htext ▸ List.mem_cons_self)
    have hzero : ¬ (c = '0' ∧ ((digits ++ rest).head?.map Numeral.isDigit).getD false = true) := by
      rintro ⟨rfl, hnext⟩
      rw [Numeral.eq_nil_of_natText htext] at hnext
      cases rest with
      | nil => exact absurd hnext nofun
      | cons c rest => exact Bool.false_ne_true ((hrest c rfl).1.symm.trans hnext)
    rw [htext] at htake hdrop habsorb
    rw [List.cons_append] at htake hdrop ⊢
    simp only [readNumber, htake, hdrop, habsorb, hdigit, hzero, Bool.not_true, Bool.false_eq_true,
      if_false]
    split
    · exact absurd rfl (hrest '.' rfl).2.1
    · exact absurd rfl (hrest 'e' rfl).2.2.1
    · exact absurd rfl (hrest 'E' rfl).2.2.2
    · rfl

end SchemaForms.Json
