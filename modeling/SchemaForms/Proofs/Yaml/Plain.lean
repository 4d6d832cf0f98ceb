import SchemaForms.Proofs.Yaml.Gaps

/-!
# Proofs/Yaml/Plain — plain scalars read back

A text that can be written plain is made of words with spaces between them (`Words`), in none of
which a colon or a hash has a meaning.  The reader takes it word by word, up to the colon behind a key
or up to the end of the line.
-/

namespace SchemaForms.Yaml

/-! ## The words of a text -/

/-- A word of a plain scalar: no gap inside, no hash in front, and no colon at the end. -/
structure IsWord (word : List Char) : Prop where
  ne_nil : word ≠ []
  solid : ∀ c ∈ word, isGap c = false
  head : word.head? ≠ some '#'
  last : word.getLast? ≠ some ':'

/-- Words, with spaces between them. -/
inductive Words : List Char → Prop
  | one {word : List Char} : IsWord word → Words word
  | more {word rest : List Char} (n : Nat) :
      IsWord word → Words rest → Words (word ++ (pad (n + 1) ++ rest))

theorem Words.exists_cons {text : List Char} (h : Words text) :
    ∃ c rest, text = c :: rest ∧ isGap c = false ∧ c ≠ '#' := by
  have hword : ∀ {word : List Char}, IsWord word →
      ∃ c rest, word = c :: rest ∧ isGap c = false ∧ c ≠ '#' := by
    intro word hword
    cases word with
    | nil => exact absurd rfl hword.ne_nil
    | cons c rest =>
      exact ⟨c, rest, rfl, hword.solid c List.mem_cons_self, fun h => hword.head (h ▸ rfl)⟩
  cases h with
  | one h => exact hword h
  | more n h _ =>
    obtain ⟨c, rest, rfl, hc⟩ := hword h
    exact ⟨c, _, rfl, hc⟩

theorem Words.begins {text x : List Char} (h : Words text) : Stops (text ++ x) := by
  obtain ⟨c, rest, rfl, hc, -⟩ := h.exists_cons
  exact hc

theorem hasOpenColon_of_append (front : List Char) {back : List Char}
    (h : Style.hasOpenColon (front ++ back) = false) : Style.hasOpenColon back = false := by
  induction front with
  | nil => exact h
  | cons c front ih => exact ih (Bool.or_eq_false_iff.mp h).2

theorem hasPair_of_append {p q : Char → Bool} (front : List Char) {back : List Char}
    (h : Style.hasPair p q (front ++ back) = false) : Style.hasPair p q back = false := by
  induction front with
  | nil => exact h
  | cons c front ih =>
    refine ih ?_
    rw [List.cons_append] at h
    cases hrest : front ++ back with
    | nil => rfl
    | cons d rest =>
      rw [hrest] at h
      exact (Bool.or_eq_false_iff.mp h).2

/-- Behind a run of the first kind no character of the second kind stands. -/
theorem hasPair_run {p q : Char → Bool} {run back : List Char} {c : Char} (hne : run ≠ [])
    (hrun : ∀ d ∈ run, p d = true) (h : Style.hasPair p q (run ++ c :: back) = false) :
    q c = false := by
  rcases List.eq_nil_or_concat run with rfl | ⟨front, d, rfl⟩
  · exact absurd rfl hne
  · rw [List.concat_eq_append, List.append_assoc] at h
    have hpair := hasPair_of_append front h
    have hd : p d = true := hrun d (by simp)
    simpa [Style.hasPair, hd] using (Bool.or_eq_false_iff.mp hpair).1

/-- No word in front of a gap or of the end has a colon at its end. -/
theorem getLast?_ne_colon {word rest : List Char} (hrest : startsGap rest = true)
    (h : Style.hasOpenColon (word ++ rest) = false) : word.getLast? ≠ some ':' := by
  intro hlast
  obtain ⟨front, rfl⟩ := List.getLast?_eq_some_iff.mp hlast
  rw [List.append_assoc] at h
  have hcolon := hasOpenColon_of_append _ h
  simp [Style.hasOpenColon, hrest] at hcolon

/-- What makes a text plain, without what its beginning could mean. -/
structure Flat (text : List Char) : Prop where
  gaps : ∀ c ∈ text, isGap c = true → c = ' '
  colons : Style.hasOpenColon text = false
  hashes : Style.hasComment text = false
  last : text.getLast? ≠ some ' '

theorem Flat.of_append (front : List Char) {back : List Char} (h : Flat (front ++ back))
    (hback : back ≠ []) : Flat back where
  gaps c hc := h.gaps c (List.mem_append_right _ hc)
  colons := hasOpenColon_of_append _ h.colons
  hashes := hasPair_of_append _ h.hashes
  last := by
    have hlast := h.last
    rwa [List.getLast?_append, Option.or_of_isSome (by simpa using hback)] at hlast

/-- A flat text is a run of words. -/
theorem Flat.words {text : List Char} (h : Flat text) {c : Char} {rest : List Char}
    (htext : text = c :: rest) (hc : isGap c = false) (hhash : c ≠ '#') : Words text := by
  induction hlength : text.length using Nat.strongRecOn generalizing text c rest with
  | ind length ih =>
    subst hlength
    obtain ⟨word, more, rfl, hsolid, hmore⟩ := exists_run (fun c => !isGap c) text
    simp only [Bool.not_eq_true', Bool.not_eq_false'] at hsolid hmore
    obtain ⟨tail, rfl⟩ : ∃ tail, word = c :: tail := by
      cases word with
      | nil =>
        rw [List.nil_append] at htext
        exact absurd (hmore c (htext ▸ rfl)) (by simp [hc])
      | cons d tail => exact ⟨tail, by rw [(List.cons.inj htext).1]⟩
    have hstart : startsGap more = true := by
      cases more with
      | nil => rfl
      | cons d tail => exact hmore d rfl
    have hword : IsWord (c :: tail) :=
      ⟨nofun, hsolid, by simpa using hhash, getLast?_ne_colon hstart h.colons⟩
    -- behind the word come spaces, and behind them what is left of the text
    obtain ⟨spaces, back, rfl, hspaces, hback⟩ := exists_run isGap more
    have hpad : spaces = pad spaces.length :=
      eq_pad fun d hd => h.gaps d (by simp [hd]) (hspaces d hd)
    cases back with
    | nil =>
      rcases List.eq_nil_or_concat spaces with rfl | ⟨front, d, rfl⟩
      · simpa using Words.one hword
      · have hd : d = ' ' := h.gaps d (by simp) (hspaces d (by simp))
        refine absurd ?_ h.last
        rw [List.append_nil, List.concat_eq_append, ← List.append_assoc, List.getLast?_concat, hd]
    | cons e back =>
      have hne : spaces ≠ [] := by
        rintro rfl
        exact absurd (hmore e rfl) (by simp [hback e rfl])
      obtain ⟨n, hn⟩ := Nat.exists_eq_add_one.mpr (List.length_pos_iff.mpr hne)
      have hcomment : e ≠ '#' := by
        have hpair : Style.hasComment (spaces ++ e :: back) = false := hasPair_of_append _ h.hashes
        simpa using hasPair_run hne hspaces hpair
      have hflat : Flat (e :: back) :=
        Flat.of_append (c :: tail ++ spaces) (by simpa using h) nofun
      rw [hpad, hn]
      refine Words.more n hword (ih _ ?_ hflat rfl (hback e rfl) hcomment rfl)
      simp only [List.length_append, List.length_cons]
      omega

/-! ## Reading words -/

/-- A word ends where the reader reads an empty one. -/
theorem readPlainWord_word {word x : List Char} (hword : IsWord word)
    (hx : readPlainWord false x = .ok []) : readPlainWord false (word ++ x) = .ok word := by
  obtain ⟨-, hsolid, -, hlast⟩ := hword
  induction word with
  | nil => exact hx
  | cons c word ih =>
    obtain ⟨hc, hsolid⟩ := List.forall_mem_cons.mp hsolid
    have hcolon : ¬ (decide (c = ':') && startsGap (word ++ x)) = true := by
      simp only [Bool.and_eq_true, decide_eq_true_eq]
      rintro ⟨rfl, hgap⟩
      cases word with
      | nil => exact hlast rfl
      | cons d word => exact absurd hgap (by simp [startsGap, hsolid d (by simp)])
    have hrest : word.getLast? ≠ some ':' := by
      intro h
      exact hlast (by rw [List.getLast?_cons, h]; rfl)
    rw [List.cons_append, readPlainWord]
    simp only [hc, Bool.false_and, Bool.false_eq_true, if_false, if_neg hcolon, ih hsolid hrest]
    rfl

/-- What follows the word just read: it ends the scalar, or a gap leads on to the next one. -/
def plainRest (margin : Int) (fuel : Nat) (front : List Char) (c : Cursor) :
    Except Fault PlainText :=
  if startsGap c.rest && !c.rest.isEmpty then do
    let (gap, c) ← readGap margin (c.rest.length + 1) .empty c
    if (c.column : Int) < margin then .ok ⟨front, c, gap.broken⟩
    else (readPlain false margin fuel gap c).map fun more => { more with text := front ++ more.text }
  else .ok ⟨front, c, false⟩

section Reading

variable {margin : Int} {fuel : Nat} {gap : Gap} {x : List Char} {index line column : Nat}

/-- A round of the reader takes a word. -/
theorem readPlain_word {word : List Char} (hword : IsWord word)
    (hx : readPlainWord false x = .ok [])
    (hmarker : Cursor.atMarker ⟨word ++ x, index, line, column⟩ = false) :
    readPlain false margin (fuel + 1) gap ⟨word ++ x, index, line, column⟩
      = plainRest margin fuel (gap.text ++ word)
          ⟨x, index + Cursor.width word, line, column + word.length⟩ := by
  have hhash : Cursor.isAt ⟨word ++ x, index, line, column⟩ '#' = false := by
    cases word with
    | nil => exact absurd rfl hword.ne_nil
    | cons c word => simpa [Cursor.isAt] using hword.head
  have hempty : word.isEmpty = false := by simpa using hword.ne_nil
  rw [readPlain]
  simp only [hmarker, hhash, Bool.or_false, Bool.false_eq_true, if_false,
    readPlainWord_word hword hx, bind, Except.bind, hempty, Cursor.skip_append, Bool.not_false,
    Bool.true_and, decide_eq_true_eq]
  rfl

/-- Behind a key the scalar ends with the colon. -/
theorem plainRest_colon {front : List Char} :
    plainRest margin fuel front ⟨':' :: x, index, line, column⟩
      = .ok ⟨front, ⟨':' :: x, index, line, column⟩, false⟩ := rfl

/-- **At the end of its line a scalar ends**, if the next line does not belong to it. -/
theorem plainRest_line {front : List Char} {n : Nat} (hx : Stops x)
    (hmargin : x = [] ∨ (n : Int) < margin) :
    plainRest margin fuel front ⟨'\n' :: (pad n ++ x), index, line, column⟩
      = .ok ⟨front, ⟨x, index + 1 + n, line + 1, n⟩, true⟩ := by
  have hgap : readGap margin (('\n' :: (pad n ++ x)).length + 1) .empty
      ⟨'\n' :: (pad n ++ x), index, line, column⟩
        = .ok (⟨[], some '\n', [], true⟩, ⟨x, index + 1 + n, line + 1, n⟩) := by
    exact readGap_breaks (List.forall_mem_singleton.mpr (by decide)) hx (by simp; omega)
  have hmore : startsGap ('\n' :: (pad n ++ x)) && !('\n' :: (pad n ++ x)).isEmpty := rfl
  rw [plainRest, if_pos hmore]
  simp only [hgap, bind, Except.bind]
  split
  · rfl
  · rename_i hcolumn
    obtain rfl := hmargin.resolve_right hcolumn
    cases fuel with
    | zero => simp [readPlain, Except.map]
    | succ fuel => 
      simp [readPlain, Except.map, readPlainWord, Cursor.atMarker, Cursor.isAt, bind, Except.bind]

/-- Behind spaces the next word follows. -/
theorem plainRest_spaces {front : List Char} {n : Nat} (hx : Stops x)
    (hmargin : margin ≤ column + (n + 1 : Nat)) :
    plainRest margin fuel front ⟨pad (n + 1) ++ x, index, line, column⟩
      = (readPlain false margin fuel ⟨pad (n + 1), none, [], false⟩
          ⟨x, index + (n + 1), line, column + (n + 1)⟩).map
            fun more => { more with text := front ++ more.text } := by
  have hgap : readGap margin ((pad (n + 1) ++ x).length + 1) .empty
      ⟨pad (n + 1) ++ x, index, line, column⟩
        = .ok (⟨pad (n + 1), none, [], false⟩, ⟨x, index + (n + 1), line, column + (n + 1)⟩) :=
    readGap_spaces hx (by simp; omega) rfl
  have hmore : startsGap (pad (n + 1) ++ x) && !(pad (n + 1) ++ x).isEmpty := rfl
  have hcolumn : ¬ ((column + (n + 1) : Nat) : Int) < margin := by omega
  rw [plainRest, if_pos hmore]
  simp only [hgap, bind, Except.bind, if_neg hcolumn]

/-- **The reader takes all words of a text**, with the spaces between them. -/
theorem readPlain_words {text : List Char} (h : Words text) (hfuel : text.length < fuel)
    (hmargin : margin ≤ column + 1) (hx : readPlainWord false x = .ok [])
    (hmarker : Cursor.atMarker ⟨text ++ x, index, line, column⟩ = false) {after : Cursor}
    {broken : Bool}
    (hafter : ∀ fuel front, plainRest margin fuel front
      ⟨x, index + Cursor.width text, line, column + text.length⟩ = .ok ⟨front, after, broken⟩) :
    readPlain false margin fuel gap ⟨text ++ x, index, line, column⟩
      = .ok ⟨gap.text ++ text, after, broken⟩ := by
  induction h generalizing fuel gap index column with
  | one hword =>
    obtain ⟨fuel, rfl⟩ := Nat.exists_eq_add_one.mpr (by omega : 0 < fuel)
    rw [readPlain_word hword hx hmarker, hafter]
  | @more word rest n hword hrest ih =>
    have hlength : 0 < word.length := List.length_pos_iff.mpr hword.ne_nil
    simp only [List.length_append] at hfuel hafter
    obtain ⟨fuel, rfl⟩ := Nat.exists_eq_add_one.mpr (by omega : 0 < fuel)
    rw [List.append_assoc, List.append_assoc] at hmarker ⊢
    rw [readPlain_word hword rfl hmarker, plainRest_spaces hrest.begins (by omega),
      ih (by omega) (by omega)]
    · simp [Except.map, Gap.text]
    · simp [Cursor.atMarker]
    · intro fuel front
      rw [← hafter fuel front]
      simp [Nat.add_assoc]

end Reading

end SchemaForms.Yaml
