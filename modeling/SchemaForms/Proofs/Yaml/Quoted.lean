import SchemaForms.Proofs.Decimal.Notation
import SchemaForms.Proofs.Yaml.Plain

/-!
# Proofs/Yaml/Quoted — quoted scalars read back

Inside quotes a text stands as words with gaps between them (`Inside`): each word is read as what it
stands for, a gap of spaces as these spaces, and a gap of breaks as these breaks, without the
indentation behind them.  Double quotes never have a break inside, because every break is escaped, and
single quotes never have spaces beside a break.
-/

namespace SchemaForms.Yaml

/-! ## Escapes -/

theorem digit?_upperHexDigit {d : Nat} (hd : d < 16) :
    Numeral.digit? 16 (upperHexDigit d) = some d := by
  revert d
  decide

@[simp] theorem length_upperHex (n width : Nat) : (upperHex n width).length = width := by
  induction width generalizing n with
  | zero => rfl
  | succ width ih => simp [upperHex, ih]

/-- Whether so many hexadecimal digits are enough for a number. -/
def FitsHex : Nat → Nat → Prop
  | 0, n => n = 0
  | width + 1, n => FitsHex width (n / 16)

/-- Hexadecimal digits, read one after the other, make up the number. -/
theorem accumulate_upperHex {n width : Nat} (hn : FitsHex width n) :
    Numeral.accumulate 16 (upperHex n width) 0 = some n := by
  induction width generalizing n with
  | zero => exact congrArg some (Eq.symm hn)
  | succ width ih =>
    have hdigit : n % 16 < 16 := Nat.mod_lt _ (by decide)
    rw [upperHex, Numeral.accumulate_append, ih hn, Option.bind_some]
    simp only [Numeral.accumulate, digit?_upperHexDigit hdigit]
    rw [Nat.div_add_mod']

/-- A number of fixed width reads back. -/
theorem natural?_upperHex {n width : Nat} (hwidth : 0 < width) (hn : FitsHex width n) :
    Numeral.natural? 16 (upperHex n width) = some n := by
  have hread := accumulate_upperHex hn
  cases hdigits : upperHex n width with
  | nil =>
    have hlength := congrArg List.length hdigits
    rw [length_upperHex] at hlength
    exact absurd hlength (Nat.ne_of_gt hwidth)
  | cons c rest =>
    rw [hdigits] at hread
    exact hread

/-- The escape by a number is read as the character. -/
theorem readYamlEscape_upperHex {mark c : Char} {width : Nat} (hshort : shortEscape? mark = none)
    (hmark : escapeWidth? mark = some width) (hwidth : 0 < width) (hc : FitsHex width c.toNat)
    (x : List Char) :
    readYamlEscape (mark :: (upperHex c.toNat width ++ x)) = .ok (c, width + 1) := by
  have htake : (upperHex c.toNat width ++ x).take width = upperHex c.toNat width := by
    rw [List.take_append_of_le_length (by simp), List.take_of_length_le (by simp)]
  have hvalid : ¬ (width < width ∨ (0xD800 ≤ c.toNat ∧ c.toNat ≤ 0xDFFF) ∨ 0x10FFFF < c.toNat) := by
    have hvalid : c.toNat < 0xD800 ∨ 0xDFFF < c.toNat ∧ c.toNat < 0x110000 := c.valid
    omega
  simp only [readYamlEscape, hshort, hmark, htake, natural?_upperHex hwidth hc, length_upperHex,
    if_neg hvalid, Char.ofNat_toNat]

theorem eq_ofNat {c : Char} {n : Nat} (h : c.toNat = n) : c = Char.ofNat n :=
  h ▸ (Char.ofNat_toNat c).symm

/-- A character of ASCII that is seen, or a space. -/
def IsVisible (c : Char) : Prop := 0x20 ≤ c.toNat ∧ c.toNat ≤ 0x7E

instance (c : Char) : Decidable (IsVisible c) := inferInstanceAs (Decidable (_ ∧ _))

theorem IsVisible.isBreak {c : Char} (h : IsVisible c) : isBreak c = false := by
  simp only [Yaml.isBreak, Bool.or_eq_false_iff, decide_eq_false_iff_not]
  refine ⟨⟨⟨⟨?_, ?_⟩, ?_⟩, ?_⟩, ?_⟩ <;>
  · rintro rfl
    exact absurd h (by decide)

theorem IsVisible.width {c : Char} (h : IsVisible c) : c.utf8Size = 1 := by
  have hval : c.val ≤ 0x7F := by
    rw [UInt32.le_iff_toNat_le]
    exact Nat.le_trans h.2 (by decide)
  simp [Char.utf8Size, hval]

theorem width_visible {text : List Char} (h : ∀ c ∈ text, IsVisible c) :
    Cursor.width text = text.length := by
  induction text with
  | nil => rfl
  | cons c text ih =>
    obtain ⟨hc, htext⟩ := List.forall_mem_cons.mp h
    rw [Cursor.width_cons, hc.width, ih htext, List.length_cons, Nat.add_comm]

/-- A character takes two bytes at least beyond ASCII, and four beyond the basic plane. -/
theorem utf8Size_bounds (c : Char) :
    1 ≤ c.utf8Size ∧ (0x7F < c.toNat → 2 ≤ c.utf8Size) ∧ (0xFFFF < c.toNat → 4 ≤ c.utf8Size) := by
  have hsize : c.utf8Size = if c.toNat ≤ 0x7F then 1 else if c.toNat ≤ 0x7FF then 2
      else if c.toNat ≤ 0xFFFF then 3 else 4 := by
    simp only [Char.utf8Size, UInt32.le_iff_toNat_le]
    rfl
  rw [hsize]
  refine ⟨?_, ?_, ?_⟩ <;> (repeat' split) <;> omega

theorem visible_upperHex (n width : Nat) : ∀ c ∈ upperHex n width, IsVisible c := by
  have hdigit : ∀ d < 16, IsVisible (upperHexDigit d) := by decide
  induction width generalizing n with
  | zero => exact nofun
  | succ width ih =>
    intro c hc
    rcases List.mem_append.mp hc with hc | hc
    · exact ih _ c hc
    · obtain rfl := List.mem_singleton.mp hc
      exact hdigit _ (Nat.mod_lt _ (by decide))

/-- **A text stands for a character behind a backslash**: it is read as it, and is short. -/
structure Escapes (c : Char) (text : List Char) : Prop where
  visible : ∀ d ∈ text, IsVisible d
  short : text.length + 1 ≤ 4 * c.utf8Size
  reads : ∃ mark rest, text = mark :: rest ∧
    ∀ x, readYamlEscape (mark :: (rest ++ x)) = .ok (c, rest.length + 1)

theorem escapes_ite {c : Char} {p : Prop} [Decidable p] {text other : List Char}
    (h : p → Escapes c text) (hother : ¬ p → Escapes c other) :
    Escapes c (if p then text else other) := by
  split
  · exact h ‹p›
  · exact hother ‹¬ p›

/-- An escape of one letter. -/
theorem escapes_short {c d mark : Char} (h : c = d) (hmark : shortEscape? mark = some d)
    (hvisible : IsVisible mark) : Escapes c [mark] where
  visible := by simpa using hvisible
  short := by
    have := (utf8Size_bounds c).1
    rw [List.length_singleton]
    omega
  reads := ⟨mark, [], rfl, fun x => by simp only [readYamlEscape, hmark, h]; rfl⟩

/-- An escape by a number. -/
theorem escapes_upperHex {c mark : Char} {width : Nat} (hshort : shortEscape? mark = none)
    (hmark : escapeWidth? mark = some width) (hvisible : IsVisible mark) (hwidth : 0 < width)
    (hc : FitsHex width c.toNat) (hsize : width + 2 ≤ 4 * c.utf8Size) :
    Escapes c (mark :: upperHex c.toNat width) where
  visible := List.forall_mem_cons.mpr ⟨hvisible, visible_upperHex _ _⟩
  short := by rwa [List.length_cons, length_upperHex]
  reads := by
    refine ⟨mark, _, rfl, fun x => ?_⟩
    rw [readYamlEscape_upperHex hshort hmark hwidth hc, length_upperHex]

/-- **The escape of a character stands for it.** -/
theorem escapes_escapeText (c : Char) : Escapes c (escapeText c) := by
  have hvalid : c.toNat < 0xD800 ∨ 0xDFFF < c.toNat ∧ c.toNat < 0x110000 := c.valid
  obtain ⟨hone, htwo, hfour⟩ := utf8Size_bounds c
  simp only [escapeText]
  -- the escapes of one letter first, then the three widths of numbers
  iterate 15
    refine escapes_ite (fun h => escapes_short (by first | exact h | exact eq_ofNat h) rfl (by decide))
      fun _ => ?_
  refine escapes_ite (fun h => ?_) fun _ => escapes_ite (fun h => ?_) fun _ => ?_
  · exact escapes_upperHex rfl rfl (by decide) (by decide) (by simp only [FitsHex]; omega) (by omega)
  · exact escapes_upperHex rfl rfl (by decide) (by decide) (by simp only [FitsHex]; omega) (by omega)
  · exact escapes_upperHex rfl rfl (by decide) (by decide) (by simp only [FitsHex]; omega) (by omega)

/-! ## Words inside quotes -/

/-- What a continued word reports, with a text in front that took some characters. -/
def putFront (word : List Char) (taken : Nat) (result : List Char × Nat × QuotedEnd) :
    List Char × Nat × QuotedEnd :=
  (word ++ result.1, result.2.1 + taken, result.2.2)

/-- A piece of text inside quotes is read as a word, whatever follows it. -/
def Reads (single : Bool) (word piece : List Char) : Prop :=
  ∀ x, readQuotedWord single 0 (piece ++ x)
    = (readQuotedWord single 0 x).map (putFront word piece.length)

theorem reads_nil (single : Bool) : Reads single [] [] := by
  intro x
  cases h : readQuotedWord single 0 x <;> simp [Except.map, putFront, h]

theorem Reads.append {single : Bool} {word piece more moved : List Char}
    (h : Reads single word piece) (hmore : Reads single more moved) :
    Reads single (word ++ more) (piece ++ moved) := by
  intro x
  rw [List.append_assoc, h, hmore]
  cases readQuotedWord single 0 x <;> simp [Except.map, putFront, Nat.add_comm, Nat.add_left_comm]

/-- The characters of an escape that is decoded already. -/
theorem readQuotedWord_skip (single : Bool) (taken x : List Char) :
    readQuotedWord single taken.length (taken ++ x)
      = (readQuotedWord single 0 x).map (putFront [] taken.length) := by
  induction taken with
  | nil => exact reads_nil single x
  | cons c taken ih =>
    rw [List.length_cons, List.cons_append, readQuotedWord, ih]
    cases readQuotedWord single 0 x <;> simp [Except.map, putFront, Nat.add_assoc]

/-- An escape inside double quotes. -/
theorem readQuotedWord_escape {mark d : Char} {rest : List Char} {used : Nat}
    (hbreak : isBreak mark = false) (hread : readYamlEscape (mark :: rest) = .ok (d, used)) :
    readQuotedWord false 0 ('\\' :: mark :: rest)
      = (readQuotedWord false used (mark :: rest)).map (putFront [d] 1) := by
  rw [readQuotedWord]
  simp only [hread, List.head?_cons, Option.map_some, Option.getD_some, hbreak]
  rfl

/-- A character without a meaning inside double quotes. -/
theorem readQuotedWord_self {c : Char} {rest : List Char} (hgap : isGap c = false)
    (hquote : c ≠ '"') (hslash : c ≠ '\\') :
    readQuotedWord false 0 (c :: rest) = (readQuotedWord false 0 rest).map (putFront [c] 1) := by
  rw [readQuotedWord]
  simp only [hgap, hquote, hslash, Bool.false_eq_true, if_false]
  rfl

/-- A character that is no space is read in double quotes. -/
theorem reads_doubleQuotedChar {c : Char} (hc : c ≠ ' ') : Reads false [c] (doubleQuotedChar c) := by
  intro x
  rw [doubleQuotedChar]
  split
  · have hescapes := escapes_escapeText c
    obtain ⟨mark, rest, htext, hread⟩ := hescapes.reads
    have hbreak : isBreak mark = false := (hescapes.visible mark (by simp [htext])).isBreak
    have hskip := readQuotedWord_skip false (mark :: rest) x
    rw [List.cons_append] at hskip
    rw [htext, List.cons_append, List.cons_append, readQuotedWord_escape hbreak (hread x),
      ← List.length_cons, hskip]
    cases readQuotedWord false 0 x <;> simp [Except.map, putFront, Nat.add_assoc]
  · rename_i hplain
    simp only [Bool.or_eq_true, Bool.not_eq_true', decide_eq_true_eq, not_or, Bool.not_eq_false,
      Bool.not_eq_true] at hplain
    obtain ⟨⟨⟨hprintable, hbreak⟩, hquote⟩, hslash⟩ := hplain
    have hgap : isGap c = false :=
      Bool.eq_false_iff.mpr fun h => hc (eq_space_of_isGap hprintable hbreak h)
    exact readQuotedWord_self hgap hquote hslash

/-- A character as it is written in single quotes. -/
def singleQuotedChar (c : Char) : List Char := if c = '\'' then ['\'', '\''] else [c]

/-- A doubled quote inside single quotes. -/
theorem readQuotedWord_doubled (rest : List Char) :
    readQuotedWord true 0 ('\'' :: '\'' :: rest)
      = (readQuotedWord true 0 rest).map (putFront ['\''] 2) := by
  have hsecond : readQuotedWord true 1 ('\'' :: rest)
      = (readQuotedWord true 0 rest).map (putFront [] 1) := readQuotedWord_skip true ['\''] rest
  rw [readQuotedWord, hsecond]
  cases readQuotedWord true 0 rest <;> rfl

/-- A character that is no gap is read in single quotes. -/
theorem reads_singleQuotedChar {c : Char} (hc : isGap c = false) :
    Reads true [c] (singleQuotedChar c) := by
  intro x
  rw [singleQuotedChar]
  split
  · rename_i h
    obtain rfl := h
    exact readQuotedWord_doubled x
  · rename_i h
    rw [List.cons_append, readQuotedWord]
    simp only [hc, h, Bool.false_eq_true, if_false, if_true]
    rfl

/-- A word whose characters are read one by one. -/
theorem reads_flatMap {single : Bool} {piece : Char → List Char} {word : List Char}
    (h : ∀ c ∈ word, Reads single [c] (piece c)) : Reads single word (word.flatMap piece) := by
  induction word with
  | nil => exact reads_nil single
  | cons c word ih =>
    obtain ⟨hc, hword⟩ := List.forall_mem_cons.mp h
    exact hc.append (ih hword)

/-! ## Texts inside quotes -/

/-- The quote of a kind. -/
def quoteOf (single : Bool) : Char := if single then '\'' else '"'

/-- **How a text stands inside quotes**: words, with spaces or indented breaks between them. -/
inductive Inside (single : Bool) : List Char → List Char → Prop
  | word {word piece : List Char} : Reads single word piece → Inside single word piece
  | spaces {word piece text body : List Char} (n : Nat) : Reads single word piece →
      Inside single text body → (∀ x, Stops x → Stops (body ++ x)) →
      Inside single (word ++ (pad (n + 1) ++ text)) (piece ++ (pad (n + 1) ++ body))
  | breaks {word piece text body : List Char} {b : Char} {more : List Char} (indent : Nat) :
      Reads single word piece →
      (∀ d ∈ b :: more, Style.isPrintable d = true ∧ isBreak d = true) → b ≠ '\n' → 1 ≤ indent →
      Inside single text body → (∀ x, Stops x → Stops (body ++ x)) →
      Inside single (word ++ (b :: more ++ text)) (piece ++ (b :: more ++ pad indent ++ body))

/-- Breaks between lines stay, unless the first is a line feed. -/
theorem text_breaks {b : Char} (hb : b ≠ '\n') (more : List Char) :
    Gap.text ⟨[], some b, more, true⟩ = b :: more := by
  simp [Gap.text]

section Reading

variable {single : Bool} {fuel : Nat} {word piece x : List Char} {index line column : Nat}

/-- A round of the reader ends at the closing quote. -/
theorem readQuoted_quote (hword : Reads single word piece) (hcolumn : 0 < column)
    (hx : single = true → x.head? ≠ some '\'') :
    readQuoted single (fuel + 1) ⟨piece ++ quoteOf single :: x, index, line, column⟩
      = .ok (word, ⟨x, index + (Cursor.width piece + 1), line, column + (piece.length + 1)⟩) := by
  have hend : readQuotedWord single 0 (quoteOf single :: x) = .ok ([], 0, .quote) := by
    cases single with
    | false => rfl
    | true => simp [readQuotedWord, quoteOf, isGap, isBlank, isBreak, hx rfl]
  have hopen : (Cursor.atMarker ⟨piece ++ quoteOf single :: x, index, line, column⟩ ||
      (piece ++ quoteOf single :: x).isEmpty) = false := by
    simp [Cursor.atMarker, Nat.ne_of_gt hcolumn]
  have hsize : (quoteOf single).utf8Size = 1 := by cases single <;> rfl
  rw [readQuoted]
  simp only [hopen, Bool.false_eq_true, if_false, hword (quoteOf single :: x), hend, Except.map,
    putFront, bind, Except.bind, List.append_nil, Nat.zero_add, Cursor.skip_append,
    Cursor.next_cons, hsize, Nat.add_assoc]

/-- A round of the reader goes on behind a gap. -/
theorem readQuoted_gap {gap : Gap} {between after : Cursor} {more : List Char}
    (hword : Reads single word piece) (hcolumn : 0 < column) (hx : x ≠ [])
    (hend : readQuotedWord single 0 x = .ok ([], 0, .gap))
    (hgap : readGap (-1) (x.length + 1) .empty
      ⟨x, index + Cursor.width piece, line, column + piece.length⟩ = .ok (gap, between))
    (hmore : readQuoted single fuel between = .ok (more, after)) :
    readQuoted single (fuel + 1) ⟨piece ++ x, index, line, column⟩
      = .ok (word ++ (gap.text ++ more), after) := by
  have hopen : (Cursor.atMarker ⟨piece ++ x, index, line, column⟩ || (piece ++ x).isEmpty)
      = false := by
    simp [Cursor.atMarker, Nat.ne_of_gt hcolumn, hx]
  rw [readQuoted]
  simp only [hopen, Bool.false_eq_true, if_false, hword x, hend, Except.map,
    putFront, bind, Except.bind, List.append_nil, Nat.zero_add, Cursor.skip_append, hgap, hmore,
    List.append_assoc]

/-- A round of the reader takes the spaces behind a word. -/
theorem readQuoted_spaces {n : Nat} {more : List Char} {after : Cursor}
    (hword : Reads single word piece) (hcolumn : 0 < column) (hx : Stops x)
    (hmore : readQuoted single fuel ⟨x, index + Cursor.width piece + (n + 1), line,
      column + piece.length + (n + 1)⟩ = .ok (more, after)) :
    readQuoted single (fuel + 1) ⟨piece ++ (pad (n + 1) ++ x), index, line, column⟩
      = .ok (word ++ (pad (n + 1) ++ more), after) := by
  have hend : readQuotedWord single 0 (pad (n + 1) ++ x) = .ok ([], 0, .gap) := rfl
  have hgap : readGap (-1) ((pad (n + 1) ++ x).length + 1) .empty ⟨pad (n + 1) ++ x,
      index + Cursor.width piece, line, column + piece.length⟩
        = .ok (⟨pad (n + 1), none, [], false⟩, _) :=
    readGap_spaces hx (by simp; omega) rfl
  have hne : pad (n + 1) ++ x ≠ [] := List.cons_ne_nil _ _
  rw [readQuoted_gap hword hcolumn hne hend hgap hmore]
  simp [Gap.text]

/-- A round of the reader takes the breaks behind a word, and the indentation behind them. -/
theorem readQuoted_breaks {b : Char} {breaks : List Char} {indent : Nat} {more : List Char}
    {after : Cursor} (hword : Reads single word piece) (hcolumn : 0 < column)
    (hbreaks : ∀ d ∈ b :: breaks, Style.isPrintable d = true ∧ isBreak d = true) (hb : b ≠ '\n')
    (hx : Stops x)
    (hmore : readQuoted single fuel ⟨x, index + Cursor.width piece + Cursor.width (b :: breaks)
      + indent, line + (b :: breaks).length, indent⟩ = .ok (more, after)) :
    readQuoted single (fuel + 1)
        ⟨piece ++ (b :: breaks ++ pad indent ++ x), index, line, column⟩
      = .ok (word ++ (b :: breaks ++ more), after) := by
  have hgapChar : isGap b = true := by simp [isGap, (hbreaks b List.mem_cons_self).2]
  have hend : readQuotedWord single 0 (b :: breaks ++ pad indent ++ x) = .ok ([], 0, .gap) := by
    simp [readQuotedWord, hgapChar]
  have hgap : readGap (-1) ((b :: breaks ++ pad indent ++ x).length + 1) .empty
      ⟨b :: breaks ++ pad indent ++ x, index + Cursor.width piece, line, column + piece.length⟩
        = .ok (⟨[], some b, breaks, true⟩, _) :=
    readGap_breaks hbreaks hx (by simp; omega)
  have hne : b :: breaks ++ pad indent ++ x ≠ [] := List.cons_ne_nil _ _
  rw [readQuoted_gap hword hcolumn hne hend hgap hmore, text_breaks hb]

/-- **A text inside quotes is read up to the closing quote.**  The reader stays in the line unless
there are breaks inside. -/
theorem readQuoted_inside {text body : List Char} (h : Inside single text body)
    (hfuel : body.length < fuel) (hcolumn : 0 < column)
    (hx : single = true → x.head? ≠ some '\'') :
    ∃ line' column', readQuoted single fuel ⟨body ++ quoteOf single :: x, index, line, column⟩
        = .ok (text, ⟨x, index + (Cursor.width body + 1), line', column'⟩) ∧
      line ≤ line' ∧ ((∀ c ∈ body, isBreak c = false) → line' = line ∧
        column' = column + (body.length + 1)) := by
  have hquote : Stops (quoteOf single :: x) := by cases single <;> rfl
  induction h generalizing fuel index line column with
  | word hword =>
    obtain ⟨fuel, rfl⟩ := Nat.exists_eq_add_one.mpr (by omega : 0 < fuel)
    exact ⟨_, _, readQuoted_quote hword hcolumn hx, Nat.le_refl _, fun _ => ⟨rfl, rfl⟩⟩
  | @spaces word piece text body n hword hinside hstops ih =>
    simp only [List.length_append, length_pad] at hfuel
    obtain ⟨fuel, rfl⟩ := Nat.exists_eq_add_one.mpr (by omega : 0 < fuel)
    obtain ⟨line', column', hmore, hline, hsame⟩ := @ih fuel (index + Cursor.width piece + (n + 1))
      line (column + piece.length + (n + 1)) (by omega) (by omega)
    refine ⟨line', column', ?_, hline, ?_⟩
    · rw [List.append_assoc, List.append_assoc,
        readQuoted_spaces hword hcolumn (hstops _ hquote) hmore]
      simp [Nat.add_assoc, Nat.add_comm, Nat.add_left_comm]
    · intro hbreaks
      simp only [List.mem_append] at hbreaks
      obtain ⟨rfl, rfl⟩ := hsame fun c hc => hbreaks c (.inr (.inr hc))
      refine ⟨rfl, ?_⟩
      simp
      omega
  | @breaks word piece text body b more indent hword hbreaks hb hindent hinside hstops ih =>
    simp only [List.length_append, length_pad, List.length_cons] at hfuel
    obtain ⟨fuel, rfl⟩ := Nat.exists_eq_add_one.mpr (by omega : 0 < fuel)
    obtain ⟨line', column', hmore, hline, -⟩ := @ih fuel
      (index + Cursor.width piece + Cursor.width (b :: more) + indent)
      (line + (b :: more).length) indent (by omega) hindent
    refine ⟨line', column', ?_, by omega, ?_⟩
    · rw [List.append_assoc, List.append_assoc _ body,
        readQuoted_breaks hword hcolumn hbreaks hb (hstops _ hquote) hmore]
      simp [Nat.add_assoc, Nat.add_comm, Nat.add_left_comm]
    · intro hnone
      exact absurd (hbreaks b List.mem_cons_self).2 (by simp [hnone b (by simp)])

end Reading

/-! ## The two styles -/

/-- The text in double quotes goes on without a gap behind spaces. -/
theorem stops_double {text : List Char} (h : ∀ c ∈ text.head?, c ≠ ' ') {x : List Char}
    (hx : Stops x) : Stops (text.flatMap doubleQuotedChar ++ x) := by
  cases text with
  | nil => exact hx
  | cons c text =>
    rw [List.flatMap_cons, doubleQuotedChar]
    split
    · rfl
    · rename_i hplain
      simp only [Bool.or_eq_true, Bool.not_eq_true', not_or, Bool.not_eq_false,
        Bool.not_eq_true] at hplain
      exact Bool.eq_false_iff.mpr fun hgap =>
        h c rfl (eq_space_of_isGap hplain.1.1.1 hplain.1.1.2 hgap)

theorem flatMap_pad (n : Nat) : (pad n).flatMap doubleQuotedChar = pad n := by
  induction n with
  | zero => rfl
  | succ n ih =>
    rw [pad, List.replicate_succ, List.flatMap_cons]
    exact congrArg (' ' :: ·) ih

/-- **Any text can stand in double quotes.** -/
theorem inside_double (text : List Char) : Inside false text (text.flatMap doubleQuotedChar) := by
  induction hlength : text.length using Nat.strongRecOn generalizing text with
  | ind length ih =>
    subst hlength
    obtain ⟨word, more, rfl, hword, hmore⟩ := exists_run (fun c => c != ' ') text
    simp only [bne_iff_ne, bne_eq_false_iff_eq] at hword hmore
    have hreads := reads_flatMap fun c hc => reads_doubleQuotedChar (hword c hc)
    obtain ⟨spaces, back, rfl, hspaces, hback⟩ := exists_run (fun c => c == ' ') more
    simp only [beq_iff_eq, beq_eq_false_iff_ne] at hspaces hback
    have hpad : spaces = pad spaces.length := eq_pad hspaces
    cases hcount : spaces.length with
    | zero =>
      obtain rfl := List.eq_nil_of_length_eq_zero hcount
      cases back with
      | nil => simpa using Inside.word hreads
      | cons c back => exact absurd (hmore c rfl) (hback c rfl)
    | succ n =>
      rw [hcount] at hpad
      rw [List.flatMap_append, List.flatMap_append, hpad, flatMap_pad]
      refine .spaces n hreads (ih _ ?_ back rfl) fun x hx => stops_double hback hx
      simp only [List.length_append]
      omega

section Single

variable {indent : Nat} {text : List Char}

/-- A word in single quotes. -/
theorem singleQuotedBody_word {word : List Char} (hword : ∀ c ∈ word, isBreak c = false)
    (more : List Char) :
    singleQuotedBody indent false (word ++ more)
      = word.flatMap singleQuotedChar ++ singleQuotedBody indent false more := by
  induction word with
  | nil => rfl
  | cons c word ih =>
    obtain ⟨hc, hword⟩ := List.forall_mem_cons.mp hword
    rw [List.cons_append, singleQuotedBody, ih hword]
    simp [hc, singleQuotedChar]

/-- Spaces in single quotes. -/
theorem singleQuotedBody_pad (n : Nat) (more : List Char) :
    singleQuotedBody indent false (pad n ++ more)
      = pad n ++ singleQuotedBody indent false more := by
  induction n with
  | zero => rfl
  | succ n ih => exact congrArg (' ' :: ·) ih

/-- Breaks in single quotes, with the indentation of the line behind them. -/
theorem singleQuotedBody_breaks {breaks more : List Char} {fresh : Bool}
    (hfresh : fresh = true ∨ breaks ≠ []) (hbreaks : ∀ c ∈ breaks, isBreak c = true)
    (hmore : ∀ c ∈ more.head?, isBreak c = false) :
    singleQuotedBody indent fresh (breaks ++ more)
      = breaks ++ (pad indent ++ singleQuotedBody indent false more) := by
  induction breaks generalizing fresh with
  | nil =>
    obtain rfl := hfresh.resolve_right (absurd rfl)
    cases more with
    | nil => simp [singleQuotedBody]
    | cons c more =>
      have hc : isBreak c = false := hmore c rfl
      simp [singleQuotedBody, hc]
  | cons b breaks ih =>
    obtain ⟨hb, hbreaks⟩ := List.forall_mem_cons.mp hbreaks
    rw [List.cons_append, singleQuotedBody, if_pos hb, ih (.inl rfl) hbreaks]
    rfl

/-- What the writer asks of a text in single quotes. -/
structure Lined (text : List Char) : Prop where
  printable : ∀ c ∈ text, Style.isPrintable c = true
  breakSpace : Style.hasBreakSpace text = false
  spaceBreak : Style.hasSpaceBreak text = false
  feed : '\n' ∉ text

theorem Lined.of_append (front : List Char) {back : List Char} (h : Lined (front ++ back)) :
    Lined back where
  printable c hc := h.printable c (List.mem_append_right _ hc)
  breakSpace := hasPair_of_append front h.breakSpace
  spaceBreak := hasPair_of_append front h.spaceBreak
  feed hmem := h.feed (List.mem_append_right _ hmem)

theorem stops_single (h : ∀ c ∈ text.head?, isGap c = false) {x : List Char} (hx : Stops x) :
    Stops (singleQuotedBody indent false text ++ x) := by
  cases text with
  | nil => exact hx
  | cons c text =>
    have hc : isGap c = false := h c rfl
    have hbreak : isBreak c = false := (Bool.or_eq_false_iff.mp hc).2
    rw [singleQuotedBody]
    by_cases hquote : c = '\''
    · simp [hquote, Stops, isGap, isBlank, isBreak]
    · simp [hbreak, hquote, Stops, hc]

/-- Behind a run of breaks there is no gap. -/
theorem Lined.solid_behind_breaks {front breaks back : List Char}
    (h : Lined (front ++ (breaks ++ back))) (hne : breaks ≠ [])
    (hbreaks : ∀ c ∈ breaks, isBreak c = true) (hback : ∀ c ∈ back.head?, isBreak c = false) :
    ∀ c ∈ back.head?, isGap c = false := by
  intro c hc
  obtain ⟨tail, rfl⟩ := List.head?_eq_some_iff.mp hc
  refine Bool.eq_false_iff.mpr fun hgap => ?_
  have hspace : c = ' ' := eq_space_of_isGap (h.printable c (by simp)) (hback c rfl) hgap
  have hpair : Style.isSpace c = false :=
    hasPair_run hne hbreaks (hasPair_of_append front h.breakSpace)
  rw [hspace] at hpair
  exact absurd hpair (by decide)

/-- Behind a run of spaces there is no gap. -/
theorem Lined.solid_behind_spaces {front spaces back : List Char}
    (h : Lined (front ++ (spaces ++ back))) (hne : spaces ≠ [])
    (hspaces : ∀ c ∈ spaces, c = ' ') (hback : ∀ c ∈ back.head?, c ≠ ' ') :
    ∀ c ∈ back.head?, isGap c = false := by
  intro c hc
  obtain ⟨tail, rfl⟩ := List.head?_eq_some_iff.mp hc
  have hsolid : isBreak c = false :=
    hasPair_run hne (by simpa [Style.isSpace] using hspaces) (hasPair_of_append front h.spaceBreak)
  exact Bool.eq_false_iff.mpr fun hgap =>
    hback c rfl (eq_space_of_isGap (h.printable c (by simp)) hsolid hgap)

/-- **A text without spaces beside a break can stand in single quotes.** -/
theorem Lined.inside (h : Lined text) (hindent : 1 ≤ indent) :
    Inside true text (singleQuotedBody indent false text) := by
  induction hlength : text.length using Nat.strongRecOn generalizing text with
  | ind length ih =>
    subst hlength
    obtain ⟨word, more, rfl, hword, hmore⟩ := exists_run (fun c => !isGap c) text
    simp only [Bool.not_eq_true', Bool.not_eq_false'] at hword hmore
    have hreads := reads_flatMap fun c hc => reads_singleQuotedChar (hword c hc)
    rw [singleQuotedBody_word fun c hc => (Bool.or_eq_false_iff.mp (hword c hc)).2]
    cases more with
    | nil => simpa [singleQuotedBody] using Inside.word hreads
    | cons g more =>
      -- behind the word comes a run of breaks or a run of spaces, and behind it no gap
      cases hg : isBreak g with
      | true =>
        obtain ⟨breaks, back, rfl, hbreaks, hback⟩ := exists_run isBreak more
        rw [← List.cons_append] at h ⊢
        have hrun : ∀ d ∈ g :: breaks, isBreak d = true := List.forall_mem_cons.mpr ⟨hg, hbreaks⟩
        have hstops := h.solid_behind_breaks (List.cons_ne_nil g breaks) hrun hback
        have hfeed : g ≠ '\n' := by
          rintro rfl
          exact h.feed (by simp)
        rw [singleQuotedBody_breaks (.inr (List.cons_ne_nil g breaks)) hrun hback,
          ← List.append_assoc (g :: breaks) (pad indent)]
        refine .breaks indent hreads (fun d hd => ⟨h.printable d ?_, hrun d hd⟩) hfeed hindent
          (ih _ ?_ ?_ rfl) fun x hx => stops_single hstops hx
        · exact List.mem_append_right _ (List.mem_append_left _ hd)
        · simp only [List.length_append, List.length_cons]
          omega
        · exact Lined.of_append (word ++ g :: breaks) (by simpa using h)
      | false =>
        obtain rfl : g = ' ' := eq_space_of_isGap (h.printable g (by simp)) hg (hmore g rfl)
        obtain ⟨spaces, back, rfl, hspaces, hback⟩ := exists_run (fun c => c == ' ') more
        simp only [beq_iff_eq, beq_eq_false_iff_ne] at hspaces hback
        rw [← List.cons_append] at h ⊢
        have hrun : ∀ d ∈ ' ' :: spaces, d = ' ' := List.forall_mem_cons.mpr ⟨rfl, hspaces⟩
        have hstops := h.solid_behind_spaces (List.cons_ne_nil ' ' spaces) hrun hback
        have hpad : ' ' :: spaces = pad (spaces.length + 1) := congrArg (' ' :: ·) (eq_pad hspaces)
        rw [hpad, singleQuotedBody_pad]
        refine .spaces _ hreads (ih _ ?_ ?_ rfl) fun x hx => stops_single hstops hx
        · simp only [List.length_append, List.length_cons]
          omega
        · exact Lined.of_append (word ++ ' ' :: spaces) (by simpa using h)

end Single

/-! ## Quoted texts are short, and have no breaks of their own -/

theorem solid_doubleQuotedChar (c : Char) : ∀ d ∈ doubleQuotedChar c, isBreak d = false := by
  rw [doubleQuotedChar]
  split
  · exact List.forall_mem_cons.mpr
      ⟨rfl, fun d hd => ((escapes_escapeText c).visible d hd).isBreak⟩
  · rename_i hplain
    simp only [Bool.or_eq_true, not_or, Bool.not_eq_true] at hplain
    simpa using hplain.1.1.2

theorem width_doubleQuotedChar (c : Char) : Cursor.width (doubleQuotedChar c) ≤ 4 * c.utf8Size := by
  rw [doubleQuotedChar]
  split
  · have hescapes := escapes_escapeText c
    have hslash : '\\'.utf8Size = 1 := rfl
    rw [Cursor.width_cons, width_visible hescapes.visible, hslash, Nat.add_comm]
    exact hescapes.short
  · rw [Cursor.width_singleton]
    omega

theorem solid_singleQuotedChar {c : Char} (hc : isBreak c = false) :
    ∀ d ∈ singleQuotedChar c, isBreak d = false := by
  rw [singleQuotedChar]
  split
  · exact List.forall_mem_cons.mpr ⟨rfl, List.forall_mem_singleton.mpr rfl⟩
  · exact List.forall_mem_singleton.mpr hc

theorem width_singleQuotedChar (c : Char) : Cursor.width (singleQuotedChar c) ≤ 4 * c.utf8Size := by
  have hsize := (utf8Size_bounds c).1
  have hquote : Cursor.width ['\'', '\''] = 2 := rfl
  rw [singleQuotedChar]
  split
  · omega
  · rw [Cursor.width_singleton]
    omega

theorem width_flatMap {piece : Char → List Char}
    (h : ∀ c, Cursor.width (piece c) ≤ 4 * c.utf8Size) (text : List Char) :
    Cursor.width (text.flatMap piece) ≤ 4 * Cursor.width text := by
  induction text with
  | nil => exact Nat.le_refl _
  | cons c text ih =>
    have hc := h c
    rw [List.flatMap_cons, Cursor.width_append, Cursor.width_cons]
    omega

theorem solid_flatMap {piece : Char → List Char} {text : List Char}
    (h : ∀ c ∈ text, ∀ d ∈ piece c, isBreak d = false) :
    ∀ d ∈ text.flatMap piece, isBreak d = false := by
  intro d hd
  obtain ⟨c, hc, hd⟩ := List.mem_flatMap.mp hd
  exact h c hc d hd

end SchemaForms.Yaml
