import SchemaForms.Decimal.Layout
import SchemaForms.Text.Numeral

/-!
# Proofs/Decimal/Notation — decimal notation reads back

A natural number is written with digits only, and reading these digits gives the number again; so
does an integer, with its sign.  The engine is `accumulate_natText`: a reader that has read some digits
goes on with the number's digits as if it multiplied and added at once.
-/

namespace SchemaForms

namespace Decimal

/-- Every character of a written number is a digit. -/
theorem mem_natText {n : Nat} {c : Char} (hc : c ∈ natText n) : ∃ d < 10, c = digitChar d := by
  induction n using Nat.strongRecOn with
  | ind n ih =>
    rw [natText, digitsOf] at hc
    split at hc
    · rename_i hn
      exact ⟨n, hn, by simpa using hc⟩
    · rename_i hn
      rw [List.map_append, List.mem_append] at hc
      rcases hc with hc | hc
      · exact ih (n / 10) (by omega) hc
      · exact ⟨n % 10, Nat.mod_lt _ (by omega), by simpa using hc⟩

/-- A written number has at least one digit. -/
theorem natText_ne_nil (n : Nat) : natText n ≠ [] := by
  rw [natText, digitsOf]
  split <;> simp

/-- A written number contains none of the characters that are no digits. -/
theorem not_mem_natText {c : Char} (hc : ∀ d < 10, digitChar d ≠ c) (n : Nat) : c ∉ natText n := by
  intro hmem
  obtain ⟨d, hd, rfl⟩ := mem_natText hmem
  exact hc d hd rfl

end Decimal

namespace Numeral

open Decimal

theorem accumulate_append (radix : Nat) (front back : List Char) (acc : Nat) :
    accumulate radix (front ++ back) acc
      = (accumulate radix front acc).bind (accumulate radix back) := by
  induction front generalizing acc with
  | nil => rfl
  | cons c rest ih =>
    simp only [List.cons_append, accumulate]
    cases digit? radix c with
    | none => rfl
    | some d => exact ih _

theorem digit?_digitChar {d : Nat} (hd : d < 10) : digit? 10 (digitChar d) = some d := by
  revert d
  decide

/-- **The digits of a number, read one after the other, make up the number.** -/
theorem accumulate_natText (n acc : Nat) :
    accumulate 10 (natText n) acc = some (acc * Nat.pow 10 (digitsOf n).length + n) := by
  induction n using Nat.strongRecOn generalizing acc with
  | ind n ih =>
    rw [natText, digitsOf]
    split
    · rename_i hn
      simp [accumulate, digit?_digitChar hn]
    · rename_i hn
      have hlast : n % 10 < 10 := Nat.mod_lt _ (by omega)
      have hfront := ih (n / 10) (by omega) acc
      rw [natText] at hfront
      rw [List.map_append, accumulate_append, hfront]
      simp only [List.map_cons, List.map_nil, Option.bind_some, accumulate,
        digit?_digitChar hlast, List.length_append, List.length_cons, List.length_nil]
      congr 1
      have hpow : (acc * Nat.pow 10 (digitsOf (n / 10)).length + n / 10) * 10
          = acc * Nat.pow 10 ((digitsOf (n / 10)).length + (0 + 1)) + n / 10 * 10 := by
        rw [Nat.add_mul, Nat.mul_assoc]
        rfl
      omega

/-- **A written natural number reads back.** -/
theorem natural?_natText (n : Nat) : natural? 10 (natText n) = some n := by
  have hread := accumulate_natText n 0
  rw [Nat.zero_mul, Nat.zero_add] at hread
  cases htext : natText n with
  | nil => exact absurd htext (natText_ne_nil n)
  | cons c rest =>
    rw [htext] at hread
    exact hread

/-- A written number begins with a zero only if it is zero. -/
theorem eq_nil_of_natText {n : Nat} {rest : List Char} (h : natText n = '0' :: rest) :
    rest = [] := by
  induction n using Nat.strongRecOn generalizing rest with
  | ind n ih =>
    have hsplit := h
    rw [natText, digitsOf] at hsplit
    split at hsplit
    · exact (List.cons.inj hsplit).2.symm
    · rename_i hn
      rw [List.map_append, ← natText] at hsplit
      -- the digits in front begin with the same zero, so that they are it and mean zero
      obtain ⟨front, hfront⟩ : ∃ front, natText (n / 10) = '0' :: front := by
        cases htext : natText (n / 10) with
        | nil => exact absurd htext (natText_ne_nil _)
        | cons c front =>
          rw [htext] at hsplit
          exact ⟨front, congrArg (· :: front) (List.cons.inj hsplit).1⟩
      have hzero := natural?_natText (n / 10)
      rw [hfront, ih (n / 10) (by omega) hfront] at hzero
      have : 0 = n / 10 := Option.some.inj hzero
      omega

theorem isDigit_of_mem_natText {n : Nat} {c : Char} (hc : c ∈ natText n) : isDigit c = true := by
  obtain ⟨d, hd, rfl⟩ := mem_natText hc
  rw [isDigit, digit?_digitChar hd]
  rfl

/-- The codes of the digits. -/
theorem toNat_of_isDigit {c : Char} (hc : isDigit c = true) : 0x30 ≤ c.toNat ∧ c.toNat ≤ 0x39 := by
  unfold isDigit digit? at hc
  dsimp only at hc
  split at hc
  · assumption
  · -- the letters are digits above nine
    split at hc <;> grind

/-- **A written index reads back**, as long as it fits a word. -/
theorem index?_natText {n : Nat} (hn : n < unsignedBound) : index? (natText n) = some n := by
  have hplus : '+' ∉ natText n := not_mem_natText (by decide) n
  have hread : index? (natText n) = (natural? 10 (natText n)).filter fitsUnsigned := by
    cases htext : natText n with
    | nil => rfl
    | cons c rest =>
      have hc : c ≠ '+' := fun h => hplus (by rw [htext, h]; exact List.mem_cons_self)
      rw [index?]
      rintro rest' ⟨rfl, rfl⟩
      exact hc rfl
  rw [hread, natural?_natText, Option.filter_some]
  simp [fitsUnsigned, hn]

/-- A written natural number has no sign. -/
theorem signed?_natText (n : Nat) : signed? 10 (natText n) = some (n : Int) := by
  have hplus : '+' ∉ natText n := not_mem_natText (by decide) n
  have hminus : '-' ∉ natText n := not_mem_natText (by decide) n
  unfold signed?
  split
  · rename_i htext
    exact absurd (htext ▸ List.mem_cons_self) hplus
  · rename_i htext
    exact absurd (htext ▸ List.mem_cons_self) hminus
  · rw [natural?_natText]
    rfl

/-- **A written integer reads back.** -/
theorem signed?_intText (n : Int) : signed? 10 (intText n) = some n := by
  rw [intText]
  split
  · have habs : -(n.natAbs : Int) = n := by omega
    rw [signed?, natural?_natText]
    exact congrArg some habs
  · have habs : (n.natAbs : Int) = n := by omega
    rw [signed?_natText, habs]

/-- A written integer reads back as a word exactly if a word holds it. -/
theorem integer?_intText (n : Int) :
    integer? (intText n) = if fitsSigned n then some n else none := by
  rw [integer?, signed?_intText, Option.filter_some]

/-- Digits that make up a number have it as their value. -/
theorem foldl_of_accumulate {text : List Char} {acc n : Nat}
    (h : accumulate 10 text acc = some n) :
    text.foldl (fun acc c => acc * 10 + (digit? 10 c).getD 0) acc = n := by
  induction text generalizing acc with
  | nil => exact Option.some.inj h
  | cons c rest ih =>
    rw [accumulate] at h
    split at h
    · rename_i d hd
      rw [List.foldl_cons, hd]
      exact ih h
    · cases h

theorem digitsValue_natText (n : Nat) : digitsValue (natText n) = n := by
  have hread := accumulate_natText n 0
  rw [Nat.zero_mul, Nat.zero_add] at hread
  exact foldl_of_accumulate hread

/-- The digits of a natural number stand for the double nearest to it. -/
theorem magnitude?_natText (n : Nat) : magnitude? (natText n) = some (Binary64.ofNat n) := by
  have hdigits : ∀ c ∈ natText n, isDigit c = true := fun c hc => isDigit_of_mem_natText hc
  have htake : (natText n).takeWhile isDigit = natText n := by
    have happend := @List.takeWhile_append_of_pos _ isDigit (natText n) [] hdigits
    rwa [List.append_nil, List.takeWhile_nil, List.append_nil] at happend
  have hdrop : (natText n).dropWhile isDigit = [] := by
    have happend := @List.dropWhile_append_of_pos _ isDigit (natText n) [] hdigits
    rwa [List.append_nil, List.dropWhile_nil] at happend
  have hvalue : Binary64.ofDecimal n (0 - ([] : List Char).length) = Binary64.ofNat n := by
    by_cases hn : n = 0
    · subst hn
      rfl
    · simp [Binary64.ofDecimal, hn, Binary64.ofNat]
  unfold magnitude?
  simp only [htake, hdrop, List.append_nil, digitsValue_natText, exponent?, Option.map_some, hvalue,
    List.isEmpty_iff, natText_ne_nil, Bool.and_eq_true, false_and, if_false]

/-- **A natural number is read as the nearest double**, as long as that is finite. -/
theorem double?_natText {n : Nat} (hn : Binary64.ofNat n < Binary64.infinity) :
    double? (natText n) = some (Binary64.withSign false (Binary64.ofNat n)) := by
  have hplus : '+' ∉ natText n := not_mem_natText (by decide) n
  have hminus : '-' ∉ natText n := not_mem_natText (by decide) n
  unfold double?
  split
  rename_i negative body hsign
  split at hsign
  · rename_i htext
    exact absurd (htext ▸ List.mem_cons_self) hplus
  · rename_i htext
    exact absurd (htext ▸ List.mem_cons_self) hminus
  · obtain ⟨rfl, rfl⟩ := Prod.mk.inj hsign
    rw [magnitude?_natText, Option.filter_some, if_pos (decide_eq_true hn), Option.map_some]

end Numeral

end SchemaForms
