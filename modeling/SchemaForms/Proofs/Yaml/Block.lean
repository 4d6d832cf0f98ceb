import SchemaForms.Proofs.Yaml.Plain

/-!
# Proofs/Yaml/Block — block scalars read back

A text in a block is breaks, then lines with breaks between them (`Lines`), then breaks again.  The
reader takes the lines with the breaks between them, and reports the breaks behind the last line apart
(`readBlockLines_lines`): of these the header keeps none, the first, or all.
-/

namespace SchemaForms.Yaml

/-- Lines that are not empty, with breaks between them. -/
inductive Lines : List Char → Prop
  | one {line : List Char} : line ≠ [] → (∀ c ∈ line, isBreak c = false) → Lines line
  | more {line rest : List Char} {b : Char} {breaks : List Char} : line ≠ [] →
      (∀ c ∈ line, isBreak c = false) → (∀ c ∈ b :: breaks, isBreak c = true) → Lines rest →
      Lines (line ++ (b :: breaks ++ rest))

theorem Lines.exists_cons {text : List Char} (h : Lines text) :
    ∃ c rest, text = c :: rest ∧ isBreak c = false := by
  cases h with
  | @one line hne hline =>
    cases text with
    | nil => exact absurd rfl hne
    | cons c rest => exact ⟨c, rest, rfl, hline c List.mem_cons_self⟩
  | @more line rest b breaks hne hline _ _ =>
    cases line with
    | nil => exact absurd rfl hne
    | cons c line => exact ⟨c, _, rfl, hline c List.mem_cons_self⟩

/-- A text with no break at its beginning or at its end is made of lines. -/
theorem lines_of_ends {text : List Char} (hne : text ≠ [])
    (hhead : ∀ c ∈ text.head?, isBreak c = false)
    (hlast : ∀ c ∈ text.getLast?, isBreak c = false) : Lines text := by
  induction hlength : text.length using Nat.strongRecOn generalizing text with
  | ind length ih =>
    subst hlength
    obtain ⟨line, more, rfl, hline, hmore⟩ := exists_run (fun c => !isBreak c) text
    simp only [Bool.not_eq_true', Bool.not_eq_false'] at hline hmore
    have hlinene : line ≠ [] := by
      rintro rfl
      cases more with
      | nil => exact hne rfl
      | cons c more => exact absurd (hmore c rfl) (by simp [hhead c rfl])
    cases more with
    | nil => simpa using Lines.one hlinene hline
    | cons b more =>
      obtain ⟨breaks, rest, rfl, hbreaks, hrest⟩ := exists_run isBreak more
      have hrun : ∀ c ∈ b :: breaks, isBreak c = true :=
        List.forall_mem_cons.mpr ⟨hmore b rfl, hbreaks⟩
      have hrestne : rest ≠ [] := by
        rintro rfl
        obtain ⟨front, d, hd⟩ :=
          (List.eq_nil_or_concat (b :: breaks)).resolve_left (List.cons_ne_nil _ _)
        rw [List.append_nil, hd, List.concat_eq_append, ← List.append_assoc] at hlast
        have hbreak : isBreak d = true := hrun d (by simp [hd])
        exact absurd (hlast d (by simp)) (by simp [hbreak])
      refine .more hlinene hline hrun (ih _ ?_ hrestne hrest ?_ rfl)
      · simp only [List.length_append, List.length_cons]
        omega
      · intro c hc
        refine hlast c ?_
        rw [← List.cons_append, ← List.append_assoc, List.getLast?_append, hc]
        rfl

/-! ## How lines are written -/

section Written

variable {indent : Nat} {fresh : Bool} {line breaks more : List Char}

theorem literalBody_breaks (hne : fresh = true ∨ breaks ≠ [])
    (hbreaks : ∀ c ∈ breaks, isBreak c = true) :
    literalBody indent fresh (breaks ++ more) = breaks ++ literalBody indent true more := by
  induction breaks generalizing fresh with
  | nil => rw [hne.resolve_right (absurd rfl), List.nil_append, List.nil_append]
  | cons b breaks ih =>
    obtain ⟨hb, hbreaks⟩ := List.forall_mem_cons.mp hbreaks
    rw [List.cons_append, literalBody, if_pos hb, ih (.inl rfl) hbreaks]
    rfl

theorem length_le_literalBody (text : List Char) :
    text.length ≤ (literalBody indent fresh text).length := by
  induction text generalizing fresh with
  | nil => exact Nat.zero_le _
  | cons c text ih =>
    rw [literalBody]
    split
    · exact Nat.succ_le_succ ih
    · rw [List.length_append, List.length_cons, List.length_cons]
      exact Nat.le_trans (Nat.succ_le_succ ih) (Nat.le_add_left _ _)

/-- Nothing is added to breaks at the end. -/
theorem literalBody_breaks_nil (hbreaks : ∀ c ∈ breaks, isBreak c = true) :
    literalBody indent fresh breaks = breaks := by
  induction breaks generalizing fresh with
  | nil => rfl
  | cons b breaks ih =>
    obtain ⟨hb, hbreaks⟩ := List.forall_mem_cons.mp hbreaks
    rw [literalBody, if_pos hb, ih hbreaks]

theorem literalBody_line (hline : ∀ c ∈ line, isBreak c = false) :
    literalBody indent false (line ++ more) = line ++ literalBody indent false more := by
  induction line with
  | nil => rfl
  | cons c line ih =>
    obtain ⟨hc, hline⟩ := List.forall_mem_cons.mp hline
    rw [List.cons_append, literalBody, ih hline]
    simp [hc]

/-- Nothing is added to a line at the end. -/
theorem literalBody_line_nil (hline : ∀ c ∈ line, isBreak c = false) :
    literalBody indent false line = line := by
  have hself : literalBody indent false (line ++ []) = line ++ literalBody indent false [] :=
    literalBody_line hline
  rwa [List.append_nil, literalBody, List.append_nil] at hself

/-- The first line behind a break is indented. -/
theorem literalBody_fresh (hmore : ∃ c rest, more = c :: rest ∧ isBreak c = false) :
    literalBody indent true more = pad indent ++ literalBody indent false more := by
  obtain ⟨c, rest, rfl, hc⟩ := hmore
  simp [literalBody, hc]

/-- A line, the breaks behind it and the further lines. -/
theorem Lines.literalBody_more {b : Char} (hline : ∀ c ∈ line, isBreak c = false)
    (hbreaks : ∀ c ∈ b :: breaks, isBreak c = true) (hmore : Lines more) :
    literalBody indent false (line ++ (b :: breaks ++ more))
      = line ++ (b :: breaks ++ (pad indent ++ literalBody indent false more)) := by
  rw [literalBody_line hline, literalBody_breaks (.inr (List.cons_ne_nil _ _)) hbreaks,
    literalBody_fresh hmore.exists_cons]

/-- The breaks behind the last line are written as they are. -/
theorem Lines.literalBody_append {text : List Char} (h : Lines text)
    (hbreaks : ∀ c ∈ breaks, isBreak c = true) :
    literalBody indent false (text ++ breaks) = literalBody indent false text ++ breaks := by
  induction h with
  | one hne hline =>
    rw [literalBody_line hline, literalBody_breaks_nil hbreaks, literalBody_line_nil hline]
  | more hne hline hrun hrest ih =>
    rw [List.append_assoc, List.append_assoc, literalBody_line hline,
      literalBody_breaks (.inr (List.cons_ne_nil _ _)) hrun, literalBody_fresh, ih,
      hrest.literalBody_more hline hrun]
    · simp
    · obtain ⟨c, rest, rfl, hc⟩ := hrest.exists_cons
      exact ⟨c, _, rfl, hc⟩

/-- Lines end with a character that is no break, also as they are written. -/
theorem Lines.exists_last {text : List Char} (h : Lines text) (indent : Nat) :
    ∃ front written d, text = front ++ [d] ∧ literalBody indent false text = written ++ [d] ∧
      isBreak d = false := by
  induction h with
  | @one line hne hline =>
    obtain ⟨front, d, rfl⟩ := (List.eq_nil_or_concat line).resolve_left hne
    rw [List.concat_eq_append] at hline ⊢
    exact ⟨front, front, d, rfl, literalBody_line_nil hline, hline d (by simp)⟩
  | @more line rest b breaks hne hline hrun hrest ih =>
    obtain ⟨front, written, d, rfl, hbody, hd⟩ := ih
    refine ⟨line ++ (b :: breaks ++ front), line ++ (b :: breaks ++ (pad indent ++ written)), d,
      by simp, ?_, hd⟩
    rw [hrest.literalBody_more hline hrun, hbody]
    simp

end Written

/-! ## How lines are read -/

/-- What follows the breaks between lines: an indentation that is the block's or a smaller one, and
behind it no break, and no further space unless the line belongs to the block. -/
structure Follows (indent n : Nat) (x : List Char) : Prop where
  le : n ≤ indent
  solid : ∀ c ∈ x.head?, isBreak c = false ∧ (n < indent → isGap c = false)

section Reading

variable {indent fuel n deepest : Nat} {x : List Char} {index line : Nat}

/-- What stands further to the left is no part of the block. -/
theorem Stops.follows (hx : Stops x) (hn : n < indent) : Follows indent n x := by
  refine ⟨Nat.le_of_lt hn, fun c hc => ⟨isBreak_of_stops hx c hc, fun _ => ?_⟩⟩
  obtain ⟨tail, rfl⟩ := List.head?_eq_some_iff.mp hc
  exact hx

/-- Lines begin with a character of their own, as they are written. -/
theorem Lines.literalBody_eq {text : List Char} (h : Lines text) (indent : Nat) :
    ∃ c tail tail', text = c :: tail ∧ literalBody indent false text = c :: tail' ∧
      isBreak c = false := by
  obtain ⟨c, tail, rfl, hc⟩ := h.exists_cons
  exact ⟨c, tail, literalBody indent false tail, rfl, by simp [literalBody, hc], hc⟩

/-- Behind the indentation of the block its lines go on. -/
theorem Lines.follows {text : List Char} (h : Lines text) (indent : Nat) (x : List Char) :
    Follows indent indent (literalBody indent false text ++ x) := by
  obtain ⟨c, tail, tail', -, hbody, hc⟩ := h.literalBody_eq indent
  rw [hbody]
  exact ⟨Nat.le_refl _, by rintro _ ⟨⟩; exact ⟨hc, fun h => absurd h (Nat.lt_irrefl _)⟩⟩

/-- The indentation is taken as far as the block goes. -/
theorem Follows.take (h : Follows indent n x) (hindent : 1 ≤ indent) :
    Cursor.skip ⟨pad n ++ x, index, line, 0⟩
      (if indent = 0 then ((pad n ++ x).takeWhile (· = ' ')).length
        else min ((pad n ++ x).takeWhile (· = ' ')).length (indent - 0))
      = ⟨x, index + n, line, n⟩ := by
  have hspaces : (pad n ++ x).takeWhile (· = ' ') = pad n ++ x.takeWhile (· = ' ') :=
    List.takeWhile_append_of_pos fun c hc => by simp [(List.mem_replicate.mp hc).2]
  have hcount : min (n + (x.takeWhile (· = ' ')).length) indent = n := by
    have hle := h.le
    by_cases hn : n < indent
    · have hnone : x.takeWhile (· = ' ') = [] := by
        cases x with
        | nil => rfl
        | cons c x =>
          have hc := (h.solid c rfl).2 hn
          exact List.takeWhile_cons_of_neg (by rintro hspace; simp_all [isGap, isBlank])
      simp [hnone]
      omega
    · omega
  have hskip := Cursor.skip_append (pad n) x index line 0
  rw [if_neg (by omega), hspaces, List.length_append, length_pad, Nat.sub_zero, hcount]
  simpa using hskip

/-- Behind the last break the indentation is taken. -/
theorem readBlockBreaks_stop (h : Follows indent n x) (hindent : 1 ≤ indent) :
    readBlockBreaks indent (fuel + 1) deepest ⟨pad n ++ x, index, line, 0⟩
      = .ok ([], max deepest n, ⟨x, index + n, line, n⟩) := by
  have htab : ¬ (Cursor.isAt ⟨x, index + n, line, n⟩ '\t' = true ∧ (indent = 0 ∨ n < indent)) := by
    rintro ⟨htab, hn⟩
    cases x with
    | nil => exact absurd htab nofun
    | cons c x =>
      obtain rfl : c = '\t' := by simpa [Cursor.isAt] using htab
      exact absurd ((h.solid '\t' rfl).2 (by omega)) (by decide)
  rw [readBlockBreaks]
  simp only [h.take hindent, if_neg htab,
    Cursor.lineBreak?_eq_none fun c hc => (h.solid c hc).1]

/-- A break between lines is read. -/
theorem readBlockBreaks_break {b : Char} (hp : Style.isPrintable b = true)
    (hb : isBreak b = true) :
    readBlockBreaks indent (fuel + 1) deepest ⟨b :: x, index, line, 0⟩
      = (readBlockBreaks indent fuel (max deepest 0) ⟨x, index + b.utf8Size, line + 1, 0⟩).map
          fun (bs, deepest, c) => (b :: bs, deepest, c) := by
  have hspaces : (b :: x).takeWhile (· = ' ') = [] :=
    List.takeWhile_cons_of_neg (by
      rintro hspace
      obtain rfl : b = ' ' := by simpa using hspace
      exact absurd hb (by decide))
  have htab : Cursor.isAt ⟨b :: x, index, line, 0⟩ '\t' = false := by
    simp only [Cursor.isAt, List.head?_cons, Option.some.injEq, decide_eq_false_iff_not]
    rintro rfl
    exact absurd hb (by decide)
  have hskip : Cursor.skip ⟨b :: x, index, line, 0⟩ 0 = ⟨b :: x, index, line, 0⟩ := rfl
  rw [readBlockBreaks]
  simp only [hspaces, List.length_nil, Nat.zero_min, ite_self, hskip, htab, Bool.false_eq_true,
    false_and, if_false, Cursor.lineBreak?_of_isBreak hp hb]

/-- **The breaks between lines are read**, with the indentation behind them. -/
theorem readBlockBreaks_breaks {breaks : List Char}
    (hbreaks : ∀ c ∈ breaks, Style.isPrintable c = true ∧ isBreak c = true)
    (h : Follows indent n x) (hindent : 1 ≤ indent) (hfuel : breaks.length < fuel) :
    ∃ deepest' index', readBlockBreaks indent fuel deepest ⟨breaks ++ (pad n ++ x), index, line, 0⟩
      = .ok (breaks, deepest', ⟨x, index' + n, line + breaks.length, n⟩) := by
  obtain ⟨fuel, rfl⟩ := Nat.exists_eq_add_one.mpr (by omega : 0 < fuel)
  induction breaks generalizing fuel deepest index line with
  | nil => exact ⟨_, index, readBlockBreaks_stop h hindent⟩
  | cons b breaks ih =>
    obtain ⟨hb, hbreaks⟩ := List.forall_mem_cons.mp hbreaks
    rw [List.length_cons] at hfuel
    obtain ⟨fuel, rfl⟩ := Nat.exists_eq_add_one.mpr (by omega : 0 < fuel)
    obtain ⟨deepest', index', hread⟩ := ih hbreaks fuel (by omega)
    refine ⟨deepest', index', ?_⟩
    rw [List.cons_append, readBlockBreaks_break hb.1 hb.2, hread]
    simp [Except.map, Nat.add_assoc, Nat.add_comm 1]

/-- A line of a block with the breaks behind it. -/
theorem readBlockLines_line (fuel : Nat) (leading trailing : List Char) (blank : Bool)
    (index line : Nat) {text : List Char} {b : Char} {breaks : List Char}
    (htext : ∀ c ∈ text, isBreak c = false)
    (hbreaks : ∀ c ∈ b :: breaks, Style.isPrintable c = true ∧ isBreak c = true)
    (h : Follows indent n x) (hindent : 1 ≤ indent) :
    ∃ index' blank', readBlockLines true indent (fuel + 1) leading trailing blank
        ⟨text ++ (b :: breaks ++ (pad n ++ x)), index, line, indent⟩
      = (readBlockLines true indent fuel [b] breaks blank'
          ⟨x, index' + n, line + (b :: breaks).length, n⟩).map
            fun (more, last, empties, c) =>
              (leading ++ trailing ++ text ++ more, last, empties, c) := by
  obtain ⟨hb, hbreaks⟩ := List.forall_mem_cons.mp hbreaks
  obtain ⟨deepest', index', hread⟩ : ∃ deepest' index',
      readBlockBreaks indent ((breaks ++ (pad n ++ x)).length + 1) 0
        ⟨breaks ++ (pad n ++ x), index + Cursor.width text + b.utf8Size, line + 1, 0⟩
      = .ok (breaks, deepest', ⟨x, index' + n, line + 1 + breaks.length, n⟩) :=
    readBlockBreaks_breaks hbreaks h hindent (by rw [List.length_append]; omega)
  have hopen : ¬ (indent ≠ indent ∨ (text ++ b :: (breaks ++ (pad n ++ x))).isEmpty = true) := by
    simp
  have htake : (text ++ b :: (breaks ++ (pad n ++ x))).takeWhile (fun d => !isBreak d) = text := by
    rw [List.takeWhile_append_of_pos fun c hc => by simp [htext c hc],
      List.takeWhile_cons_of_neg (by simp [hb.2]), List.append_nil]
  have hline : line + (b :: breaks).length = line + 1 + breaks.length := by simp; omega
  refine ⟨index', ((text ++ b :: (breaks ++ (pad n ++ x))).head?.map isBlank).getD false, ?_⟩
  rw [List.cons_append, readBlockLines, hline]
  simp only [if_neg hopen, htake, Cursor.skip_append, Cursor.lineBreak?_of_isBreak hb.1 hb.2,
    hread, bind, Except.bind, Cursor.peek?, Bool.not_true, Bool.false_and, Bool.false_eq_true,
    if_false]
  cases readBlockLines true indent fuel [b] breaks _ _ <;> rfl

/-- A line further to the left is behind the block. -/
theorem readBlockLines_end {leading trailing : List Char} {blank : Bool} (hn : n < indent) :
    readBlockLines true indent fuel leading trailing blank ⟨x, index, line, n⟩
      = .ok ([], leading, trailing, ⟨x, index, line, n⟩) := by
  cases fuel with
  | zero => rfl
  | succ fuel => rw [readBlockLines, if_pos (.inl (Nat.ne_of_lt hn))]

/-- **The reader takes the lines of a block**, and reports the breaks behind the last one. -/
theorem readBlockLines_lines {leading trailing text : List Char} {blank : Bool} (h : Lines text)
    (hprintable : ∀ c ∈ text, Style.isPrintable c = true) {b : Char} {breaks : List Char}
    (hbreaks : ∀ c ∈ b :: breaks, Style.isPrintable c = true ∧ isBreak c = true)
    (hn : n < indent) (hx : Stops x) (hfuel : text.length < fuel) :
    ∃ index' line', readBlockLines true indent fuel leading trailing blank
        ⟨literalBody indent false text ++ (b :: breaks ++ (pad n ++ x)), index, line, indent⟩
      = .ok (leading ++ trailing ++ text, [b], breaks, ⟨x, index' + n, line', n⟩) := by
  have hindent : 1 ≤ indent := by omega
  obtain ⟨fuel, rfl⟩ := Nat.exists_eq_add_one.mpr (by omega : 0 < fuel)
  induction h generalizing fuel leading trailing blank index line with
  | @one text hne htext =>
    have hfollows := hx.follows hn
    obtain ⟨index', blank', hline⟩ :=
      readBlockLines_line fuel leading trailing blank index line htext hbreaks hfollows hindent
    refine ⟨index', line + (b :: breaks).length, ?_⟩
    rw [literalBody_line_nil htext, hline, readBlockLines_end hn]
    simp only [Except.map, List.append_nil]
  | @more text rest d inner hne htext hinner hrest ih =>
    have hfollows := hrest.follows indent (b :: breaks ++ (pad n ++ x))
    have hprint : ∀ c ∈ d :: inner, Style.isPrintable c = true ∧ isBreak c = true := fun c hc =>
      ⟨hprintable c (List.mem_append_right _ (List.mem_append_left _ hc)), hinner c hc⟩
    simp only [List.length_append, List.length_cons] at hfuel
    obtain ⟨fuel, rfl⟩ := Nat.exists_eq_add_one.mpr (by omega : 0 < fuel)
    obtain ⟨index', blank', hline⟩ := readBlockLines_line (fuel + 1) leading trailing blank index line
      htext hprint hfollows hindent
    obtain ⟨index'', line'', hrun⟩ := @ih (index' + indent) (line + (d :: inner).length) [d] inner
      blank' (fun c hc => hprintable c (List.mem_append_right _ (List.mem_append_right _ hc))) fuel
      (by omega)
    refine ⟨index'', line'', ?_⟩
    rw [hrest.literalBody_more htext hinner]
    simp only [List.append_assoc] at hline ⊢
    rw [hline, hrun]
    simp [Except.map]

end Reading

/-! ## The header -/

/-- What the header says of the breaks at the end. -/
def chompingText : Chomping → List Char
  | .strip => ['-']
  | .clip => []
  | .keep => ['+']

/-- Whether a text begins with a gap, so that the header names the indentation. -/
def startsGapped (text : List Char) : Bool :=
  (text.head?.map fun c => c = ' ' || isBreak c).getD false

/-- What is left of the breaks behind the last line. -/
def chomped (chomping : Chomping) (last empties : List Char) : List Char :=
  match chomping with
  | .strip => []
  | .clip => last
  | .keep => last ++ empties

theorem closeLine_concat (front : List Char) (d : Char) :
    closeLine (front ++ [d]) = if isBreak d then front ++ [d] else front ++ [d] ++ ['\n'] := by
  rw [closeLine, List.getLast?_concat]
  rfl

/-- The header of a text that ends with a character that is no break. -/
theorem literalHeader_strip (front : List Char) {d : Char} (hd : isBreak d = false) :
    literalHeader (front ++ [d])
      = '|' :: ((if startsGapped (front ++ [d]) then ['2'] else []) ++ chompingText .strip) := by
  cases hfront : front.reverse <;> simp [literalHeader, startsGapped, hfront, hd, chompingText]

/-- The header of a text with one break at its end. -/
theorem literalHeader_clip (front : List Char) {d b : Char} (hd : isBreak d = false)
    (hb : isBreak b = true) :
    literalHeader (front ++ [d, b])
      = '|' :: ((if startsGapped (front ++ [d, b]) then ['2'] else []) ++ chompingText .clip) := by
  simp [literalHeader, startsGapped, hd, hb, chompingText]

/-- The header of a text with several breaks at its end, or of nothing but breaks. -/
theorem literalHeader_keep {text : List Char} (front : List Char) {b : Char}
    (hfront : ∀ d ∈ front.getLast?, isBreak d = true) (hb : isBreak b = true)
    (htext : text = front ++ [b]) :
    literalHeader text
      = '|' :: ((if startsGapped text then ['2'] else []) ++ chompingText .keep) := by
  subst htext
  rcases List.eq_nil_or_concat front with rfl | ⟨front, d, rfl⟩
  · simp [literalHeader, startsGapped, hb, chompingText]
  · have hd : isBreak d = true := hfront d (by simp)
    simp [literalHeader, startsGapped, hb, hd, chompingText]

/-- **The header keeps of the breaks at the end what the text has.** -/
theorem literalHeader_lines (indent : Nat) {front text breaks : List Char}
    (hfront : ∀ c ∈ front, isBreak c = true) (h : Lines text)
    (hbreaks : ∀ c ∈ breaks, isBreak c = true) :
    ∃ chomping b more, b :: more = breaks ++ (if breaks = [] then ['\n'] else []) ∧
      literalHeader (front ++ (text ++ breaks)) = '|' ::
        ((if startsGapped (front ++ (text ++ breaks)) then ['2'] else []) ++ chompingText chomping) ∧
      closeLine (literalBody indent true (front ++ (text ++ breaks)))
        = front ++ (pad indent ++ (literalBody indent false text ++ b :: more)) ∧
      chomped chomping [b] more = breaks := by
  obtain ⟨c, tail, htext, hc⟩ := h.exists_cons
  have hbody : literalBody indent true (front ++ (text ++ breaks))
      = front ++ (pad indent ++ (literalBody indent false text ++ breaks)) := by
    rw [literalBody_breaks (.inl rfl) hfront, literalBody_fresh ⟨c, tail ++ breaks, by simp [htext], hc⟩,
      h.literalBody_append hbreaks]
  obtain ⟨body, written, d, hlast, hwritten, hd⟩ := h.exists_last indent
  rw [hbody]
  rcases List.eq_nil_or_concat breaks with rfl | ⟨inner, b, rfl⟩
  · refine ⟨.strip, '\n', [], rfl, ?_, ?_, rfl⟩
    · have hheader := literalHeader_strip (front ++ body) hd
      simpa [hlast] using hheader
    · have hclose := closeLine_concat (front ++ (pad indent ++ written)) d
      simpa [hwritten, hd] using hclose
  · rw [List.concat_eq_append] at hbreaks ⊢
    have hb : isBreak b = true := hbreaks b (by simp)
    have hclose : closeLine (front ++ (pad indent ++ (literalBody indent false text ++ (inner ++ [b]))))
        = front ++ (pad indent ++ (literalBody indent false text ++ (inner ++ [b]))) := by
      have hclose :=
        closeLine_concat (front ++ (pad indent ++ (literalBody indent false text ++ inner))) b
      simpa [hb] using hclose
    rw [hclose]
    cases inner with
    | nil =>
      refine ⟨.clip, b, [], rfl, ?_, rfl, rfl⟩
      have hheader := literalHeader_clip (front ++ body) hd hb
      simpa [hlast] using hheader
    | cons e inner =>
      refine ⟨.keep, e, inner ++ [b], by simp, ?_, rfl, rfl⟩
      refine literalHeader_keep (front ++ (text ++ e :: inner)) ?_ hb (by simp)
      intro x hx
      obtain ⟨init, last, hinit⟩ :=
        (List.eq_nil_or_concat (e :: inner)).resolve_left (List.cons_ne_nil _ _)
      rw [hinit, List.concat_eq_append] at hx hbreaks
      obtain rfl : last = x := by simpa using hx
      exact hbreaks last (by simp)

/-! ## Whole blocks -/

/-- What is read of a block behind its header. -/
def readBlockBody (chomping : Chomping) (known : Nat) (parent : Int) (c : Cursor) :
    Except Fault (List Char × Cursor) := do
  let (empties, deepest, c) ← readBlockBreaks known (c.rest.length + 1) 0 c
  let indent := if known = 0 then max deepest (max (parent + 1).toNat 1) else known
  let (text, last, empties, c) ←
    readBlockLines true indent (c.rest.length + 1) [] empties false c
  .ok (text ++ chomped chomping last empties, c)

section Whole

variable {parent : Int} {indent n : Nat} {x : List Char} {index line column : Nat}

/-- **The header is read as it was meant.** -/
theorem readBlock_header (chomping : Chomping) (named : Bool) (x : List Char) :
    ∃ index', readBlock true parent
        ⟨(if named then ['2'] else []) ++ chompingText chomping ++ '\n' :: x, index, line, column⟩
      = readBlockBody chomping (if named then (max parent 0).toNat + 2 else 0) parent
          ⟨x, index', line + 1, 0⟩ := by
  cases named <;> cases chomping <;> exact ⟨_, rfl⟩

/-- Where no indentation is named, the first line shows it. -/
theorem readBlockBreaks_unknown {fuel : Nat} (hx : Stops x) :
    readBlockBreaks 0 (fuel + 1) 0 ⟨pad indent ++ x, index, line, 0⟩
      = .ok ([], indent, ⟨x, index + indent, line, indent⟩) := by
  have hspaces : (pad indent ++ x).takeWhile (· = ' ') = pad indent := by
    rw [List.takeWhile_append_of_pos fun c hc => by simp [(List.mem_replicate.mp hc).2]]
    cases x with
    | nil => exact List.append_nil _
    | cons c x =>
      have hc : c ≠ ' ' := by
        rintro rfl
        exact absurd hx (by simp [Stops, isGap, isBlank])
      rw [List.takeWhile_cons_of_neg (by simpa using hc), List.append_nil]
  have hskip : Cursor.skip ⟨pad indent ++ x, index, line, 0⟩ (pad indent).length
      = ⟨x, index + indent, line, indent⟩ := by
    simpa using Cursor.skip_append (pad indent) x index line 0
  have htab : Cursor.isAt ⟨x, index + indent, line, indent⟩ '\t' = false := by
    cases x with
    | nil => rfl
    | cons c x =>
      simp only [Cursor.isAt, List.head?_cons, Option.some.injEq, decide_eq_false_iff_not]
      rintro rfl
      exact absurd hx (by simp [Stops, isGap, isBlank])
  rw [readBlockBreaks]
  simp only [if_true, hspaces, hskip, htab, Bool.false_eq_true, false_and, if_false,
    Cursor.lineBreak?_eq_none (isBreak_of_stops hx), Nat.zero_max]

/-- **The breaks in front of the lines are read**, and the indentation of the block is found: it is
known, or the first line shows it. -/
theorem readBlockBreaks_front (index line : Nat) {known : Nat} {front text : List Char}
    (hfront : ∀ c ∈ front, Style.isPrintable c = true ∧ isBreak c = true) (h : Lines text)
    (hindent : indent = (max parent 0).toNat + 2)
    (hknown : known = indent ∨ known = 0 ∧ front = [] ∧ Stops text) (rest : List Char) :
    ∃ deepest index' line',
      readBlockBreaks known
        ((front ++ (pad indent ++ (literalBody indent false text ++ rest))).length + 1) 0
        ⟨front ++ (pad indent ++ (literalBody indent false text ++ rest)), index, line, 0⟩
      = .ok (front, deepest, ⟨literalBody indent false text ++ rest, index', line', indent⟩) ∧
      (if known = 0 then max deepest (max (parent + 1).toNat 1) else known) = indent := by
  rcases hknown with rfl | ⟨rfl, rfl, hstops⟩
  · obtain ⟨deepest, index', hread⟩ : ∃ deepest index', readBlockBreaks known
        ((front ++ (pad known ++ (literalBody known false text ++ rest))).length + 1) 0
        ⟨front ++ (pad known ++ (literalBody known false text ++ rest)), index, line, 0⟩
          = .ok (front, deepest, ⟨_, index' + known, line + front.length, known⟩) :=
      readBlockBreaks_breaks hfront (h.follows known rest) (by omega)
        (by rw [List.length_append]; omega)
    exact ⟨deepest, _, _, hread, if_neg (by omega)⟩
  · refine ⟨indent, _, _, readBlockBreaks_unknown ?_, ?_⟩
    · obtain ⟨c, tail, tail', rfl, hbody, -⟩ := h.literalBody_eq indent
      rw [hbody]
      exact hstops
    · rw [if_pos rfl]
      omega

/-- **A block of lines is read**, with the breaks in front of them. -/
theorem readBlockBody_lines (chomping : Chomping) (index line : Nat) {known : Nat}
    {front text more : List Char} {b : Char}
    (hfront : ∀ c ∈ front, Style.isPrintable c = true ∧ isBreak c = true)
    (h : Lines text) (hprintable : ∀ c ∈ text, Style.isPrintable c = true)
    (hmore : ∀ c ∈ b :: more, Style.isPrintable c = true ∧ isBreak c = true)
    (hindent : indent = (max parent 0).toNat + 2)
    (hknown : known = indent ∨ known = 0 ∧ front = [] ∧ Stops text)
    (hn : n < indent) (hx : Stops x) :
    ∃ index' line', readBlockBody chomping known parent
        ⟨front ++ (pad indent ++ (literalBody indent false text ++ (b :: more ++ (pad n ++ x)))),
          index, line, 0⟩
      = .ok (front ++ text ++ chomped chomping [b] more, ⟨x, index' + n, line', n⟩) := by
  obtain ⟨deepest, index', line', hbreaks, hcolumn⟩ :=
    readBlockBreaks_front index line hfront h hindent hknown (b :: more ++ (pad n ++ x))
  have hlength : text.length
      < (literalBody indent false text ++ (b :: more ++ (pad n ++ x))).length + 1 := by
    have hle : text.length ≤ (literalBody indent false text).length := length_le_literalBody text
    rw [List.length_append]
    omega
  obtain ⟨index'', line'', hlines⟩ : ∃ index'' line'', readBlockLines true indent
      ((literalBody indent false text ++ (b :: more ++ (pad n ++ x))).length + 1) [] front false
      ⟨literalBody indent false text ++ (b :: more ++ (pad n ++ x)), index', line', indent⟩
        = .ok ([] ++ front ++ text, [b], more, ⟨x, index'' + n, line'', n⟩) :=
    readBlockLines_lines h hprintable hmore hn hx hlength
  refine ⟨index'', line'', ?_⟩
  simp only [readBlockBody, hbreaks, bind, Except.bind, hcolumn, hlines, List.nil_append]

/-- **A block of nothing but breaks is read.** -/
theorem readBlockBody_breaks (parent : Int) (index line : Nat) {text : List Char}
    (htext : ∀ c ∈ text, Style.isPrintable c = true ∧ isBreak c = true) (hindent : 1 ≤ indent)
    (hn : n < indent) (hx : Stops x) :
    ∃ index', readBlockBody .keep indent parent ⟨text ++ (pad n ++ x), index, line, 0⟩
      = .ok (text, ⟨x, index' + n, line + text.length, n⟩) := by
  obtain ⟨deepest, index', hread⟩ : ∃ deepest index', readBlockBreaks indent
      ((text ++ (pad n ++ x)).length + 1) 0 ⟨text ++ (pad n ++ x), index, line, 0⟩
        = .ok (text, deepest, ⟨x, index' + n, line + text.length, n⟩) :=
    readBlockBreaks_breaks htext (hx.follows hn) hindent (by rw [List.length_append]; omega)
  refine ⟨index', ?_⟩
  simp only [readBlockBody, hread, bind, Except.bind, if_neg (show ¬ indent = 0 by omega),
    readBlockLines_end hn, chomped, List.nil_append]

/-- A text is nothing but breaks, or has lines between the breaks at its two ends. -/
theorem exists_lines (text : List Char) :
    (∀ c ∈ text, isBreak c = true) ∨
      ∃ front lines breaks, text = front ++ (lines ++ breaks) ∧ (∀ c ∈ front, isBreak c = true) ∧
        Lines lines ∧ ∀ c ∈ breaks, isBreak c = true := by
  obtain ⟨front, more, rfl, hfront, hmore⟩ := exists_run isBreak text
  obtain ⟨ending, body, hreverse, hending, hbody⟩ := exists_run isBreak more.reverse
  have hsplit : more = body.reverse ++ ending.reverse := by
    rw [← List.reverse_append, ← hreverse, List.reverse_reverse]
  have hbreaks : ∀ c ∈ ending.reverse, isBreak c = true := fun c hc =>
    hending c (List.mem_reverse.mp hc)
  cases more with
  | nil => exact .inl (by simpa using hfront)
  | cons c more =>
    have hc : isBreak c = false := hmore c rfl
    right
    have hne : body.reverse ≠ [] := by
      intro hnil
      rw [hnil, List.nil_append] at hsplit
      exact absurd (hbreaks c (hsplit ▸ List.mem_cons_self)) (by simp [hc])
    refine ⟨front, body.reverse, ending.reverse, by rw [hsplit], hfront,
      lines_of_ends hne ?_ ?_, hbreaks⟩
    · intro d hd
      obtain ⟨tail, htail⟩ := List.head?_eq_some_iff.mp hd
      rw [htail] at hsplit
      exact (List.cons.inj hsplit).1 ▸ hc
    · rw [List.getLast?_reverse]
      exact hbody

/-- A text that begins without a gap. -/
theorem stops_of_startsGapped {text : List Char}
    (hprintable : ∀ c ∈ text, Style.isPrintable c = true) (h : startsGapped text = false) :
    Stops text := by
  cases text with
  | nil => trivial
  | cons c text =>
    simp only [startsGapped, List.head?_cons, Option.map_some, Option.getD_some,
      Bool.or_eq_false_iff, decide_eq_false_iff_not] at h
    exact Bool.eq_false_iff.mpr fun hgap =>
      h.1 (eq_space_of_isGap (hprintable c List.mem_cons_self) h.2 hgap)

/-- A block is read if what follows its header is. -/
theorem readBlock_of_body {text : List Char} {chomping : Chomping}
    (hindent : indent = (max parent 0).toNat + 2)
    (hheader : literalHeader text
      = '|' :: ((if startsGapped text then ['2'] else []) ++ chompingText chomping))
    (hbody : ∀ index line, ∃ index' line',
      readBlockBody chomping (if startsGapped text then indent else 0) parent
        ⟨closeLine (literalBody indent true text) ++ (pad n ++ x), index, line, 0⟩
      = .ok (text, ⟨x, index' + n, line', n⟩)) :
    ∃ header index' line', literalHeader text = '|' :: header ∧ readBlock true parent
        ⟨header ++ '\n' :: (closeLine (literalBody indent true text) ++ (pad n ++ x)),
          index, line, column⟩
      = .ok (text, ⟨x, index' + n, line', n⟩) := by
  obtain ⟨index₀, hread⟩ : ∃ index₀, readBlock true parent
      ⟨(if startsGapped text then ['2'] else []) ++ chompingText chomping ++
        '\n' :: (closeLine (literalBody indent true text) ++ (pad n ++ x)), index, line, column⟩
      = readBlockBody chomping (if startsGapped text then (max parent 0).toNat + 2 else 0) parent
          ⟨_, index₀, line + 1, 0⟩ := readBlock_header chomping _ _
  obtain ⟨index', line', hrest⟩ := hbody index₀ (line + 1)
  refine ⟨_, index', line', hheader, ?_⟩
  rw [hread, ← hindent, hrest]

/-- A text of nothing but breaks is named to be indented, and kept. -/
theorem literalHeader_breaks {init : List Char} {last : Char}
    (hbreaks : ∀ c ∈ init ++ [last], isBreak c = true) :
    startsGapped (init ++ [last]) = true ∧ literalHeader (init ++ [last]) = '|' ::
      ((if startsGapped (init ++ [last]) then ['2'] else []) ++ chompingText .keep) := by
  have hlast : isBreak last = true := hbreaks last (by simp)
  refine ⟨?_, literalHeader_keep init
    (fun d hd => hbreaks d (List.mem_append_left _ (List.mem_of_mem_getLast? hd))) hlast rfl⟩
  cases init with
  | nil => simp [startsGapped, hlast]
  | cons c init => simp [startsGapped, hbreaks c (by simp)]

/-- The header names no indentation only if there are no breaks in front of the lines, and no space. -/
theorem Lines.known {front text : List Char} (h : Lines text)
    (hfront : ∀ c ∈ front, isBreak c = true) {breaks : List Char}
    (hprintable : ∀ c ∈ front ++ (text ++ breaks), Style.isPrintable c = true) (indent : Nat) :
    let known := if startsGapped (front ++ (text ++ breaks)) then indent else 0
    known = indent ∨ known = 0 ∧ front = [] ∧ Stops text := by
  intro known
  cases hnamed : startsGapped (front ++ (text ++ breaks)) with
  | true => exact .inl (by simp only [known, hnamed, if_true])
  | false =>
    have hstops := stops_of_startsGapped hprintable hnamed
    have hknown : known = 0 := by simp only [known, hnamed, Bool.false_eq_true, if_false]
    cases front with
    | cons c front =>
      exact absurd (hfront c List.mem_cons_self) (by simp [(Bool.or_eq_false_iff.mp hstops).2])
    | nil =>
      obtain ⟨c, tail, rfl, -⟩ := h.exists_cons
      exact .inr ⟨hknown, rfl, hstops⟩

/-- **A text in a block is read.** -/
theorem readBlock_literal {text : List Char} (hne : text ≠ [])
    (hprintable : ∀ c ∈ text, Style.isPrintable c = true)
    (hindent : indent = (max parent 0).toNat + 2) (hn : n < indent) (hx : Stops x) :
    ∃ header index' line', literalHeader text = '|' :: header ∧ readBlock true parent
        ⟨header ++ '\n' :: (closeLine (literalBody indent true text) ++ (pad n ++ x)),
          index, line, column⟩
      = .ok (text, ⟨x, index' + n, line', n⟩) := by
  rcases exists_lines text with hbreaks | ⟨front, lines, breaks, rfl, hfront, hlines, hbreaks⟩
  · obtain ⟨init, last, rfl⟩ := (List.eq_nil_or_concat text).resolve_left hne
    rw [List.concat_eq_append] at *
    obtain ⟨hnamed, hheader⟩ := literalHeader_breaks hbreaks
    refine readBlock_of_body hindent hheader fun index line => ?_
    rw [hnamed, if_pos rfl, literalBody_breaks_nil hbreaks, closeLine_concat,
      if_pos (hbreaks last (by simp))]
    obtain ⟨index', hbody⟩ := readBlockBody_breaks parent index line
      (fun c hc => ⟨hprintable c hc, hbreaks c hc⟩) (by omega) hn hx
    exact ⟨index', _, hbody⟩
  · obtain ⟨chomping, b, more, hmore, hheader, hclose, hchomped⟩ :=
      literalHeader_lines indent hfront hlines hbreaks
    refine readBlock_of_body hindent hheader fun index line => ?_
    have hprint : ∀ c ∈ b :: more, Style.isPrintable c = true ∧ isBreak c = true := by
      intro c hc
      rw [hmore, List.mem_append] at hc
      rcases hc with hc | hc
      · exact ⟨hprintable c (by simp [hc]), hbreaks c hc⟩
      · split at hc
        · rw [List.mem_singleton.mp hc]
          decide
        · exact absurd hc List.not_mem_nil
    obtain ⟨index', line', hbody⟩ := readBlockBody_lines chomping index line
      (fun c hc => ⟨hprintable c (by simp [hc]), hfront c hc⟩) hlines
      (fun c hc => hprintable c (by simp [hc])) hprint hindent
      (hlines.known hfront hprintable indent) hn hx
    refine ⟨index', line', ?_⟩
    rw [hclose]
    simpa [hchomped] using hbody

end Whole

end SchemaForms.Yaml
