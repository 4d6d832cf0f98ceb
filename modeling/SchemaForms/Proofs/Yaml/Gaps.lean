import SchemaForms.Yaml.Token
import SchemaForms.Yaml.Writer

/-!
# Proofs/Yaml/Gaps — the spaces and breaks between written words

The writer puts spaces and breaks between what it writes, and never a tab or a comment.  Of a gap
that it writes the readers report exactly the spaces, or the breaks (`readGap_spaces`,
`readGap_breaks`), and the lexer steps over it to the next token (`skipGap_pad`, `skipGap_line`).
-/

namespace SchemaForms.Yaml

/-! ## Characters -/

/-- The breaks that are written as themselves. -/
theorem break_cases {c : Char} (hp : Style.isPrintable c = true) (hb : isBreak c = true) :
    c = '\n' ∨ c = '\u2028' ∨ c = '\u2029' := by
  simp only [isBreak, Bool.or_eq_true, decide_eq_true_eq] at hb
  rcases hb with (((rfl | rfl) | rfl) | rfl) | rfl <;> simp_all [Style.isPrintable]

/-- A printable character that is a gap is a space or a break. -/
theorem eq_space_of_isGap {c : Char} (hp : Style.isPrintable c = true) (hb : isBreak c = false)
    (hg : isGap c = true) : c = ' ' := by
  simp only [isGap, isBlank, hb, Bool.or_false, Bool.or_eq_true, decide_eq_true_eq] at hg
  rcases hg with rfl | rfl
  · rfl
  · exact absurd hp (by decide)

/-- The text ends, or no gap is next. -/
def Stops : List Char → Prop
  | [] => True
  | c :: _ => isGap c = false

/-- The text ends, or a token is next: no gap, no comment, and no mark of the byte order. -/
def Begins : List Char → Prop
  | [] => True
  | c :: _ => isGap c = false ∧ c ≠ '#' ∧ c ≠ '\ufeff'

theorem Begins.stops {x : List Char} (h : Begins x) : Stops x := by
  cases x with
  | nil => trivial
  | cons c x => exact h.1

/-- A text begins with a longest run of characters of a kind. -/
theorem exists_run (p : Char → Bool) (text : List Char) :
    ∃ front back, text = front ++ back ∧ (∀ c ∈ front, p c = true) ∧ ∀ c ∈ back.head?, p c = false := by
  induction text with
  | nil => exact ⟨[], [], rfl, nofun, nofun⟩
  | cons c text ih =>
    cases hc : p c with
    | false => exact ⟨[], c :: text, rfl, nofun, by rintro _ ⟨⟩; exact hc⟩
    | true =>
      obtain ⟨front, back, rfl, hfront, hback⟩ := ih
      exact ⟨c :: front, back, rfl, List.forall_mem_cons.mpr ⟨hc, hfront⟩, hback⟩

/-- A run of spaces is an indentation. -/
theorem eq_pad {text : List Char} (h : ∀ c ∈ text, c = ' ') : text = pad text.length :=
  List.eq_replicate_iff.mpr ⟨rfl, h⟩

@[simp] theorem length_pad (n : Nat) : (pad n).length = n := List.length_replicate

/-! ## Cursors -/

namespace Cursor

theorem foldl_width (text : List Char) (n : Nat) :
    text.foldl (fun n c => n + c.utf8Size) n = n + width text := by
  induction text generalizing n with
  | nil => rfl
  | cons c text ih =>
    rw [width, List.foldl_cons, List.foldl_cons, ih, ih (0 + c.utf8Size)]
    omega

@[simp] theorem width_nil : width [] = 0 := rfl

@[simp] theorem width_cons (c : Char) (text : List Char) :
    width (c :: text) = c.utf8Size + width text := by
  rw [width, List.foldl_cons, foldl_width, Nat.zero_add]

theorem width_singleton (c : Char) : width [c] = c.utf8Size := by
  rw [width_cons, width_nil, Nat.add_zero]

@[simp] theorem width_append (front back : List Char) :
    width (front ++ back) = width front + width back := by
  induction front with
  | nil => simp
  | cons c front ih => simp [ih, Nat.add_assoc]

@[simp] theorem width_pad (n : Nat) : width (pad n) = n := by
  induction n with
  | zero => rfl
  | succ n ih =>
    rw [pad] at ih ⊢
    rw [List.replicate_succ, width_cons, ih, Nat.add_comm]
    rfl

/-- Stepping over a text leaves what follows it. -/
theorem skip_append (text rest : List Char) (index line column : Nat) :
    skip ⟨text ++ rest, index, line, column⟩ text.length
      = ⟨rest, index + width text, line, column + text.length⟩ := by
  simp [skip]

@[simp] theorem next_cons (c : Char) (rest : List Char) (index line column : Nat) :
    next ⟨c :: rest, index, line, column⟩
      = ⟨rest, index + c.utf8Size, line, column + 1⟩ := by
  simp [next, skip]

variable {rest : List Char} {index line column : Nat}

/-- A break that is written as itself ends its line. -/
theorem lineBreak?_of_isBreak {b : Char} (hp : Style.isPrintable b = true)
    (hb : isBreak b = true) :
    lineBreak? ⟨b :: rest, index, line, column⟩
      = some (b, ⟨rest, index + b.utf8Size, line + 1, 0⟩) := by
  rcases break_cases hp hb with rfl | rfl | rfl <;> rfl

/-- No line ends here. -/
theorem lineBreak?_eq_none (h : ∀ c ∈ rest.head?, isBreak c = false) :
    lineBreak? ⟨rest, index, line, column⟩ = none := by
  cases rest with
  | nil => rfl
  | cons c rest =>
    have hc : isBreak c = false := h c rfl
    simp only [lineBreak?]
    split
    · rename_i heq
      obtain ⟨rfl, -⟩ := List.cons.inj heq
      exact absurd hc (by decide)
    · rename_i heq
      obtain ⟨rfl, rfl⟩ := List.cons.inj heq
      rw [hc]
      rfl
    · rename_i heq
      exact absurd heq nofun

end Cursor

theorem isBreak_of_stops {x : List Char} (h : Stops x) : ∀ c ∈ x.head?, isBreak c = false := by
  cases x with
  | nil => exact nofun
  | cons c x =>
    rintro _ ⟨⟩
    exact (Bool.or_eq_false_iff.mp h).2

/-! ## Gaps inside scalars -/

section Gap

variable {margin : Int} {fuel : Nat} {gap : Gap} {x : List Char} {index line column : Nat}

/-- Where no gap is nothing is read. -/
theorem readGap_stop (hx : Stops x) :
    readGap margin fuel gap ⟨x, index, line, column⟩ = .ok (gap, ⟨x, index, line, column⟩) := by
  cases fuel with
  | zero => rfl
  | succ fuel =>
    rw [readGap, Cursor.lineBreak?_eq_none (isBreak_of_stops hx)]
    cases x with
    | nil => rfl
    | cons c x =>
      have hblank : isBlank c = false := (Bool.or_eq_false_iff.mp hx).1
      simp only [Cursor.peek?, List.head?_cons, hblank, Bool.false_eq_true, if_false]

/-- One space of a gap. -/
theorem readGap_space :
    readGap margin (fuel + 1) gap ⟨' ' :: x, index, line, column⟩
      = readGap margin fuel
          (if gap.broken then gap else { gap with blanks := gap.blanks ++ [' '] })
          ⟨x, index + 1, line, column + 1⟩ := by
  have hbreak : Cursor.lineBreak? ⟨' ' :: x, index, line, column⟩ = none :=
    Cursor.lineBreak?_eq_none (by rintro _ ⟨⟩; rfl)
  have hspace : isBlank ' ' = true := rfl
  have hnext : Cursor.next ⟨' ' :: x, index, line, column⟩ = ⟨x, index + 1, line, column + 1⟩ :=
    Cursor.next_cons ..
  rw [readGap, hbreak]
  simp only [Cursor.peek?, List.head?_cons, hspace, if_true, hnext]
  split
  · rw [if_neg fun h => absurd h.1 (by decide)]
  · rfl

/-- **The spaces within a line are reported.** -/
theorem readGap_spaces {n : Nat} (hx : Stops x) (hfuel : n ≤ fuel) (hgap : gap.broken = false) :
    readGap margin fuel gap ⟨pad n ++ x, index, line, column⟩
      = .ok ({ gap with blanks := gap.blanks ++ pad n }, ⟨x, index + n, line, column + n⟩) := by
  induction n generalizing fuel gap index column with
  | zero =>
    rw [show pad 0 ++ x = x from rfl, readGap_stop hx, show gap.blanks ++ pad 0 = gap.blanks by
      exact List.append_nil _]
    rfl
  | succ n ih =>
    obtain ⟨fuel, rfl⟩ := Nat.exists_eq_add_one.mpr (by omega : 0 < fuel)
    rw [show pad (n + 1) ++ x = ' ' :: (pad n ++ x) from rfl, readGap_space, hgap,
      if_neg Bool.false_ne_true, ih (by omega) rfl]
    simp [pad, List.replicate_succ, Nat.add_comm, Nat.add_left_comm]

/-- **The indentation behind a break is dropped.** -/
theorem readGap_pad {n : Nat} (hx : Stops x) (hfuel : n ≤ fuel) (hgap : gap.broken = true) :
    readGap margin fuel gap ⟨pad n ++ x, index, line, column⟩
      = .ok (gap, ⟨x, index + n, line, column + n⟩) := by
  induction n generalizing fuel index column with
  | zero => exact readGap_stop hx
  | succ n ih =>
    obtain ⟨fuel, rfl⟩ := Nat.exists_eq_add_one.mpr (by omega : 0 < fuel)
    rw [show pad (n + 1) ++ x = ' ' :: (pad n ++ x) from rfl, readGap_space, hgap, if_pos rfl,
      ih (by omega), Nat.add_right_comm, Nat.add_assoc column, Nat.add_comm 1]
    rfl

/-- The breaks behind the first one are collected. -/
theorem readGap_trailing {breaks : List Char} {n : Nat}
    (hbreaks : ∀ b ∈ breaks, Style.isPrintable b = true ∧ isBreak b = true) (hx : Stops x)
    (hfuel : breaks.length + n ≤ fuel) (hgap : gap.broken = true) (hcolumn : column = 0) :
    readGap margin fuel gap ⟨breaks ++ pad n ++ x, index, line, column⟩
      = .ok ({ gap with trailing := gap.trailing ++ breaks },
          ⟨x, index + Cursor.width breaks + n, line + breaks.length, n⟩) := by
  induction breaks generalizing fuel gap index line column with
  | nil =>
    rw [List.nil_append, readGap_pad hx (by simpa using hfuel) hgap]
    simp [hcolumn]
  | cons b breaks ih =>
    obtain ⟨hb, hbreaks⟩ := List.forall_mem_cons.mp hbreaks
    rw [List.length_cons] at hfuel
    obtain ⟨fuel, rfl⟩ := Nat.exists_eq_add_one.mpr (by omega : 0 < fuel)
    rw [List.cons_append, List.cons_append, readGap, Cursor.lineBreak?_of_isBreak hb.1 hb.2]
    simp only [hgap, if_true]
    rw [ih hbreaks (by omega) rfl rfl]
    simp [Nat.add_assoc, Nat.add_comm 1]

/-- **The breaks between lines are reported**, without the indentation behind them. -/
theorem readGap_breaks {b : Char} {breaks : List Char} {n : Nat}
    (hbreaks : ∀ d ∈ b :: breaks, Style.isPrintable d = true ∧ isBreak d = true) (hx : Stops x)
    (hfuel : breaks.length + n < fuel) :
    readGap margin fuel .empty ⟨b :: breaks ++ pad n ++ x, index, line, column⟩
      = .ok (⟨[], some b, breaks, true⟩,
          ⟨x, index + Cursor.width (b :: breaks) + n, line + (b :: breaks).length, n⟩) := by
  obtain ⟨hb, hbreaks⟩ := List.forall_mem_cons.mp hbreaks
  obtain ⟨fuel, rfl⟩ := Nat.exists_eq_add_one.mpr (by omega : 0 < fuel)
  rw [List.cons_append, List.cons_append, readGap, Cursor.lineBreak?_of_isBreak hb.1 hb.2]
  simp only [Gap.empty, Bool.false_eq_true, if_false]
  rw [readGap_trailing hbreaks hx (by omega) rfl rfl]
  simp [Nat.add_assoc, Nat.add_comm 1]

end Gap

/-! ## Gaps between tokens -/

section Between

variable {fuel : Nat} {allowed : Bool} {x : List Char} {index line column : Nat}

/-- **The spaces in front of a token are stepped over.** -/
theorem skipGap_pad (n : Nat) (hx : Begins x) :
    Lexer.skipGap 0 (fuel + 1) allowed ⟨pad n ++ x, index, line, column⟩
      = (allowed, ⟨x, index + n, line, column + n⟩) := by
  have hmark : Cursor.isAt ⟨pad n ++ x, index, line, column⟩ '\ufeff' = false := by
    cases n with
    | succ n => rfl
    | zero =>
      cases x with
      | nil => rfl
      | cons c x => simpa [Cursor.isAt, pad] using hx.2.2
  have hspaces : Cursor.skipWhile ⟨pad n ++ x, index, line, column⟩
      (fun d => decide (d = ' ') || ((0 != 0 || !allowed) && decide (d = '\t')))
        = ⟨x, index + n, line, column + n⟩ := by
    have htake : (pad n ++ x).takeWhile
        (fun d => decide (d = ' ') || ((0 != 0 || !allowed) && decide (d = '\t'))) = pad n := by
      rw [List.takeWhile_append_of_pos]
      · cases x with
        | nil => exact List.append_nil _
        | cons c x =>
          have hc := hx.1
          simp only [isGap, isBlank, Bool.or_eq_false_iff, decide_eq_false_iff_not] at hc
          rw [List.takeWhile_cons_of_neg (by simp [hc]), List.append_nil]
      · intro d hd
        simp [(List.mem_replicate.mp hd).2]
    rw [Cursor.skipWhile, htake, Cursor.skip_append, Cursor.width_pad]
    simp [pad]
  have hcomment : Cursor.isAt ⟨x, index + n, line, column + n⟩ '#' = false := by
    cases x with
    | nil => rfl
    | cons c x => simpa [Cursor.isAt] using hx.2.1
  rw [Lexer.skipGap]
  simp only [hmark, Bool.false_eq_true, and_false, if_false, hspaces, hcomment,
    Cursor.lineBreak?_eq_none (isBreak_of_stops hx.stops)]

/-- **The end of a line and the spaces at the beginning of the next one are stepped over**; behind
them a key may begin. -/
theorem skipGap_line (n : Nat) (hx : Begins x) :
    Lexer.skipGap 0 (fuel + 2) allowed ⟨'\n' :: (pad n ++ x), index, line, column⟩
      = (true, ⟨x, index + 1 + n, line + 1, n⟩) := by
  have hmark : Cursor.isAt ⟨'\n' :: (pad n ++ x), index, line, column⟩ '\ufeff' = false := rfl
  have hcomment : Cursor.isAt ⟨'\n' :: (pad n ++ x), index, line, column⟩ '#' = false := rfl
  have hspaces : Cursor.skipWhile ⟨'\n' :: (pad n ++ x), index, line, column⟩
      (fun d => decide (d = ' ') || ((0 != 0 || !allowed) && decide (d = '\t')))
        = ⟨'\n' :: (pad n ++ x), index, line, column⟩ := by
    rw [Cursor.skipWhile, List.takeWhile_cons_of_neg (by simp)]
    rfl
  have hbreak : Cursor.lineBreak? ⟨'\n' :: (pad n ++ x), index, line, column⟩
      = some ('\n', ⟨pad n ++ x, index + 1, line + 1, 0⟩) :=
    Cursor.lineBreak?_of_isBreak rfl rfl
  rw [Lexer.skipGap]
  simp only [hmark, Bool.false_eq_true, and_false, if_false, hspaces, hcomment, hbreak]
  rw [skipGap_pad n hx, Nat.zero_add]
  simp

end Between

end SchemaForms.Yaml
