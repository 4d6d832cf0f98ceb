import SchemaForms.Proofs.Yaml.Block
import SchemaForms.Proofs.Yaml.Quoted
import SchemaForms.Proofs.Yaml.Rounds

/-!
# Proofs/Yaml/Scalars — written strings are read as one token

Whatever style the writer chooses for a string, the lexer reads it back as one scalar
(`Lexer.reaches_stringText`), which is plain just if the style is.  Each style has a lemma for the step
that reads the token and one for the round that ends behind its line.
-/

namespace SchemaForms.Yaml

/-! ## What the styles say of a text -/

/-- A text that can stand without quotes: words, the first of which cannot be taken for anything
else. -/
structure Unquoted (text : List Char) : Prop where
  printable : ∀ c ∈ text, Style.isPrintable c = true
  words : Words text
  start : Style.startsIndicator text = false

theorem printable_of_needsEscapes {text : List Char} (h : Style.needsEscapes text = false) :
    ∀ c ∈ text, Style.isPrintable c = true := by
  simpa [Style.needsEscapes] using h

theorem unquoted_of_allowsPlain {text : List Char} (hne : text ≠ [])
    (h : Style.allowsPlain text = true) : Unquoted text := by
  simp only [Style.allowsPlain, Bool.not_eq_true', Bool.or_eq_false_iff, Style.hasIndicators,
    Style.hasEnd] at h
  obtain ⟨⟨⟨⟨hhead, hlast⟩, hbreak⟩, hescapes⟩, ⟨hstart, hcolon⟩, hcomment⟩ := h
  have hprintable := printable_of_needsEscapes hescapes
  have hbreaks : ∀ c ∈ text, isBreak c = false := by simpa using hbreak
  cases text with
  | nil => exact absurd rfl hne
  | cons c rest =>
    have hspace : c ≠ ' ' := by simpa [Style.isSpace] using hhead
    have hgap : isGap c = false := Bool.eq_false_iff.mpr fun hgap =>
      hspace (eq_space_of_isGap (hprintable c List.mem_cons_self) (hbreaks c List.mem_cons_self) hgap)
    have hhash : c ≠ '#' := by
      rintro rfl
      simp [Style.startsIndicator] at hstart
    have hflat : Flat (c :: rest) :=
      ⟨fun d hd hgap => eq_space_of_isGap (hprintable d hd) (hbreaks d hd) hgap, hcolon, hcomment, by
        intro hend
        rw [hend] at hlast
        exact absurd hlast (by decide)⟩
    exact ⟨hprintable, hflat.words rfl hgap hhash, hstart⟩

/-- How the writer comes to a style: line feeds rule out quotes by one apostrophe and plain text, and
only a string that means itself can be plain. -/
theorem style_cases (text : List Char) (asKey : Bool) :
    (Style.ofText text asKey = .literal ∧ '\n' ∈ text ∧ Style.allowsLiteral text = true) ∨
      Style.ofText text asKey = .double ∨
      (Style.ofText text asKey = .single ∧ '\n' ∉ text ∧ Style.allowsSingle text = true) ∨
      Style.ofText text asKey = .plain ∧ Style.needsQuotes text = false ∧
        Style.allowsPlain text = true := by
  simp only [Style.ofText]
  by_cases hfeed : text.contains '\n' = true
  · by_cases hliteral : (Style.allowsLiteral text && !asKey) = true
    · exact .inl (by simp_all)
    · exact .inr (.inl (by simp_all))
  · have hmem : '\n' ∉ text := by simpa using hfeed
    by_cases hquoted :
        (Style.needsQuotes text || text.isEmpty && asKey || !Style.allowsPlain text) = true
    · by_cases hsingle : Style.allowsSingle text = true
      · exact .inr (.inr (.inl (by simp_all)))
      · exact .inr (.inl (by simp_all))
    · exact .inr (.inr (.inr (by simp_all)))

/-- **An integer can stand without quotes.** -/
theorem unquoted_intText (n : Int) : Unquoted (Decimal.intText n) := by
  have hdigits : ∀ d < 10, Style.isPrintable (Decimal.digitChar d) = true ∧
      isGap (Decimal.digitChar d) = false ∧
      "#,[]\x7b\x7d&*!|>'\"%@`".toList.contains (Decimal.digitChar d) = false ∧
      Decimal.digitChar d ≠ ':' ∧ Decimal.digitChar d ≠ '?' ∧ Decimal.digitChar d ≠ '-' ∧
      Decimal.digitChar d ≠ '.' ∧ Decimal.digitChar d ≠ '#' := by decide
  have hmem : ∀ c ∈ Decimal.natText n.natAbs, Style.isPrintable c = true ∧ isGap c = false ∧
      "#,[]\x7b\x7d&*!|>'\"%@`".toList.contains c = false ∧ c ≠ ':' ∧ c ≠ '?' ∧ c ≠ '-' ∧ c ≠ '.' ∧
      c ≠ '#' := by
    intro c hc
    obtain ⟨d, hd, rfl⟩ := Decimal.mem_natText hc
    exact hdigits d hd
  have hlast : (Decimal.natText n.natAbs).getLast? ≠ some ':' := fun hlast =>
    (hmem ':' (List.mem_of_getLast? hlast)).2.2.2.1 rfl
  cases htext : Decimal.natText n.natAbs with
  | nil => exact absurd htext (Decimal.natText_ne_nil _)
  | cons c rest =>
    rw [htext] at hmem hlast
    obtain ⟨-, hgap, hmeaning, hcolon, hquestion, hhyphen, hdot, hhash⟩ := hmem c List.mem_cons_self
    rw [Decimal.intText, htext]
    split
    · refine ⟨?_, .one ⟨by simp, ?_, by simp, by simpa using hlast⟩, ?_⟩
      · exact List.forall_mem_cons.mpr ⟨by decide, fun d hd => (hmem d hd).1⟩
      · exact List.forall_mem_cons.mpr ⟨by decide, fun d hd => (hmem d hd).2.1⟩
      · simp [Style.startsIndicator, hhyphen, startsGap, hgap]
    · refine ⟨fun d hd => (hmem d hd).1, .one ⟨by simp, fun d hd => (hmem d hd).2.1, by simpa, hlast⟩,
        ?_⟩
      rw [Style.startsIndicator]
      · simp only [hmeaning, hcolon, hquestion, hhyphen, decide_false, Bool.or_false, Bool.false_and]
      · exact fun _ hc _ => hhyphen hc
      · exact fun _ hc _ => hdot hc

/-- **A string that is written plain can be**, and means a string. -/
theorem unquoted_of_style {text : List Char} {asKey : Bool}
    (h : Style.ofText text asKey = .plain) : Unquoted text ∧ Plain.ofText text = .word := by
  rcases style_cases text asKey with ⟨h', -⟩ | h' | ⟨h', -⟩ | ⟨-, hword, hplain⟩
  · exact absurd (h.symm.trans h') nofun
  · exact absurd (h.symm.trans h') nofun
  · exact absurd (h.symm.trans h') nofun
  · simp only [Style.needsQuotes, Bool.or_eq_false_iff, bne_eq_false_iff_eq] at hword
    refine ⟨unquoted_of_allowsPlain ?_ hplain, hword.1⟩
    rintro rfl
    exact absurd hword.1 (by decide)

/-- A string in single quotes can stand there. -/
theorem lined_of_style {text : List Char} {asKey : Bool}
    (h : Style.ofText text asKey = .single) : Lined text := by
  rcases style_cases text asKey with ⟨h', -⟩ | h' | ⟨-, hfeed, hsingle⟩ | ⟨h', -⟩
  · exact absurd (h.symm.trans h') nofun
  · exact absurd (h.symm.trans h') nofun
  · simp only [Style.allowsSingle, Bool.not_eq_true', Bool.or_eq_false_iff] at hsingle
    exact ⟨printable_of_needsEscapes hsingle.2, hsingle.1.1, hsingle.1.2, hfeed⟩
  · exact absurd (h.symm.trans h') nofun

/-- A string in a block can stand there, and is not empty. -/
theorem printable_of_style {text : List Char} {asKey : Bool}
    (h : Style.ofText text asKey = .literal) :
    text ≠ [] ∧ ∀ c ∈ text, Style.isPrintable c = true := by
  rcases style_cases text asKey with ⟨-, hfeed, hliteral⟩ | h' | ⟨h', -⟩ | ⟨h', -⟩
  · simp only [Style.allowsLiteral, Bool.not_eq_true', Bool.or_eq_false_iff] at hliteral
    exact ⟨List.ne_nil_of_mem hfeed, printable_of_needsEscapes hliteral.2⟩
  · exact absurd (h.symm.trans h') nofun
  · exact absurd (h.symm.trans h') nofun
  · exact absurd (h.symm.trans h') nofun

/-! ## Strings on one line -/

/-- A string in quotes stands inside them, whichever they are. -/
theorem inlineText_quoted {text : List Char} {asKey : Bool} {indent : Nat} (hindent : 1 ≤ indent)
    (h : Style.ofText text asKey ≠ .plain) :
    ∃ single body, inlineText (Style.ofText text asKey) indent text
        = quoteOf single :: (body ++ [quoteOf single]) ∧ Inside single text body ∧
      ((∀ c ∈ text, isBreak c = false) →
        (∀ c ∈ body, isBreak c = false) ∧ Cursor.width body ≤ 4 * Cursor.width text) := by
  have hdouble : (∀ c ∈ text.flatMap doubleQuotedChar, isBreak c = false) ∧
      Cursor.width (text.flatMap doubleQuotedChar) ≤ 4 * Cursor.width text :=
    ⟨solid_flatMap fun c _ => solid_doubleQuotedChar c, width_flatMap width_doubleQuotedChar text⟩
  cases hstyle : Style.ofText text asKey with
  | plain => exact absurd hstyle h
  | single =>
    refine ⟨true, _, rfl, (lined_of_style hstyle).inside hindent, fun hsolid => ?_⟩
    have hbody : singleQuotedBody indent false (text ++ [])
        = text.flatMap singleQuotedChar ++ singleQuotedBody indent false [] :=
      singleQuotedBody_word hsolid []
    rw [List.append_nil, singleQuotedBody, if_neg Bool.false_ne_true, List.append_nil] at hbody
    rw [hbody]
    exact ⟨solid_flatMap fun c hc => solid_singleQuotedChar (hsolid c hc),
      width_flatMap width_singleQuotedChar text⟩
  | double => exact ⟨false, _, rfl, inside_double text, fun _ => hdouble⟩
  | literal => exact ⟨false, _, rfl, inside_double text, fun _ => hdouble⟩

theorem begins_quote (single : Bool) (x : List Char) : Begins (quoteOf single :: x) := by
  cases single <;> exact ⟨rfl, by decide, by decide⟩

/-! ## The beginning of a plain scalar -/

theorem startsIndicator_cons {c : Char} {rest : List Char}
    (h : Style.startsIndicator (c :: rest) = false) :
    "#,[]\x7b\x7d&*!|>'\"%@`".toList.contains c = false ∧
      ((decide (c = '?') || decide (c = ':') || decide (c = '-')) && startsGap rest) = false := by
  rw [Style.startsIndicator.eq_def] at h
  split at h
  · exact absurd h nofun
  · exact absurd h nofun
  · rename_i heq
    obtain ⟨rfl, rfl⟩ := List.cons.inj heq
    exact Bool.or_eq_false_iff.mp h
  · rename_i heq
    exact absurd heq nofun

theorem Unquoted.begins {text : List Char} (h : Unquoted text) (x : List Char) : Begins (text ++ x) := by
  obtain ⟨d, rest, rfl, hgap, hhash⟩ := h.words.exists_cons
  refine ⟨hgap, hhash, ?_⟩
  rintro rfl
  exact absurd (h.printable '\ufeff' List.mem_cons_self) (by decide)

/-- A plain scalar is no document marker, even at the beginning of a line. -/
theorem Unquoted.atMarker_eq_false {text x : List Char} (h : Unquoted text)
    (hx : ∀ c ∈ x.head?, c ≠ '-' ∧ c ≠ '.') (index line column : Nat) :
    Cursor.atMarker ⟨text ++ x, index, line, column⟩ = false := by
  have hstart := h.start
  obtain ⟨c, rest, rfl, -⟩ := h.words.exists_cons
  simp only [Cursor.atMarker, Bool.and_eq_false_iff]
  right
  -- three marks can neither all stand in the text nor go on behind it
  split
  · rename_i heq
    rcases rest with - | ⟨d, - | ⟨e, rest⟩⟩
    · exact absurd rfl (hx '-' (by simp_all)).1
    · exact absurd rfl (hx '-' (by simp_all)).1
    · simp_all [Style.startsIndicator]
  · rename_i heq
    rcases rest with - | ⟨d, - | ⟨e, rest⟩⟩
    · exact absurd rfl (hx '.' (by simp_all)).2
    · exact absurd rfl (hx '.' (by simp_all)).2
    · simp_all [Style.startsIndicator]
  · rfl

/-- **A character that cannot be taken for anything else begins a plain scalar.** -/
theorem step_eq_plainScalar {lexer : Lexer} {c : Char} {rest : List Char} (hflow : lexer.flow = 0)
    (hmarker : lexer.cursor.atMarker = false) (hgap : isGap c = false)
    (hmeaning : "#,[]\x7b\x7d&*!|>'\"%@`".toList.contains c = false)
    (halone : ((decide (c = '?') || decide (c = ':') || decide (c = '-')) && startsGap rest) = false) :
    lexer.step c rest = lexer.plainScalar := by
  have hlist : "#,[]\x7b\x7d&*!|>'\"%@`".toList
      = ['#', ',', '[', ']', '{', '}', '&', '*', '!', '|', '>', '\'', '"', '%', '@', '`'] := rfl
  have hwider : "-?:,[]\x7b\x7d#&*!|>'\"%@`".toList
      = ['-', '?', ':', ',', '[', ']', '{', '}', '#', '&', '*', '!', '|', '>', '\'', '"', '%', '@',
        '`'] := rfl
  rw [hlist] at hmeaning
  simp only [List.contains_cons, List.contains_nil, Bool.or_eq_false_iff, beq_eq_false_iff_ne,
    ne_eq] at hmeaning
  have hplain : Lexer.startsPlain 0 c rest = true := by
    rw [Lexer.startsPlain, hwider]
    by_cases hhyphen : c = '-'
    · subst hhyphen
      cases rest with
      | nil => exact absurd halone (by decide)
      | cons d rest =>
        have hd : isBlank d = false := by simp_all [startsGap, isGap]
        simp [hd]
    · by_cases hmark : c = '?' ∨ c = ':'
      · rcases hmark with rfl | rfl <;> simp_all
      · simp_all
  have hhyphen : ¬ (c = '-' ∧ startsGap rest = true) := by simp_all
  have hquestion : ¬ (c = '?' ∧ startsGap rest = true) := by simp_all
  have hcolon : ¬ (c = ':' ∧ startsGap rest = true) := by simp_all
  simp [Lexer.step, hmarker, hmeaning, hflow, hplain, hhyphen, hquestion, hcolon]

namespace Lexer

section Tokens

variable {nest : Nest} {allowed : Bool} {x : List Char} {index line column : Nat}

/-- The place of a key at a cursor. -/
def placeAt (nest : Nest) (c : Cursor) : KeyPlace :=
  ⟨decide (nest.indent = c.column), nest.found.length, c.index, c.line, c.column⟩

theorem savePlace_block (c : Cursor) :
    savePlace (block c nest none allowed)
      = .ok (block c nest (if allowed then some (placeAt nest c) else none) allowed) := by
  cases allowed <;> rfl

/-- **A plain scalar is one token**, if what follows ends it. -/
theorem step_plain {text : List Char} (h : Unquoted text) {after : Cursor} {broken : Bool}
    (hx : ∀ c ∈ x.head?, c ≠ '-' ∧ c ≠ '.') (hindent : nest.indent ≤ column)
    (hword : readPlainWord false x = .ok [])
    (hafter : ∀ fuel front, plainRest (nest.indent + 1) fuel front
      ⟨x, index + Cursor.width text, line, column + text.length⟩ = .ok ⟨front, after, broken⟩) :
    ∃ d rest, text ++ x = d :: rest ∧ Begins (d :: rest) ∧
      step (block ⟨text ++ x, index, line, column⟩ nest none allowed) d rest
        = .ok (block after (nest.push [.scalar true text])
            (if allowed then some (placeAt nest ⟨text ++ x, index, line, column⟩) else none)
            broken) := by
  have hmarker := h.atMarker_eq_false hx index line column
  have hread : readPlain (0 != 0) (nest.indent + 1) ((text ++ x).length + 1) .empty
      ⟨text ++ x, index, line, column⟩ = .ok ⟨text, after, broken⟩ :=
    readPlain_words h.words (by rw [List.length_append]; omega) (by omega) hword hmarker hafter
  obtain ⟨d, rest, htext, hgap, -⟩ := h.words.exists_cons
  obtain ⟨hmeaning, halone⟩ := startsIndicator_cons (htext ▸ h.start)
  have halone' : ((decide (d = '?') || decide (d = ':') || decide (d = '-')) &&
      startsGap (rest ++ x)) = false := by
    cases rest with
    | nil => simp_all [startsGap]
    | cons e rest => exact halone
  have hbegins := h.begins x
  rw [htext] at hbegins
  refine ⟨d, rest ++ x, by rw [htext]; rfl, hbegins, ?_⟩
  rw [step_eq_plainScalar rfl hmarker hgap hmeaning halone', plainScalar, savePlace_block]
  simp only [bind, Except.bind, block, hread]
  rfl

/-- **A quoted scalar is one token.** -/
theorem step_quoted {single : Bool} {text body : List Char} (h : Inside single text body)
    (hx : x.head? ≠ some '\'') (nest : Nest) (allowed : Bool) (index line column : Nat) :
    ∃ line' column',
      step (block ⟨quoteOf single :: (body ++ quoteOf single :: x), index, line, column⟩ nest none
          allowed) (quoteOf single) (body ++ quoteOf single :: x)
        = .ok (block ⟨x, index + 1 + (Cursor.width body + 1), line', column'⟩
            (nest.push [.scalar false text])
            (if allowed then some (placeAt nest ⟨quoteOf single :: (body ++ quoteOf single :: x),
              index, line, column⟩) else none) false) ∧
      line ≤ line' ∧ ((∀ c ∈ body, isBreak c = false) → line' = line ∧
        column' = column + 1 + (body.length + 1)) := by
  have hsize : (quoteOf single).utf8Size = 1 := by cases single <;> rfl
  obtain ⟨line', column', hread, hline, hsame⟩ : ∃ line' column',
      readQuoted single ((body ++ quoteOf single :: x).length + 1)
        ⟨body ++ quoteOf single :: x, index + 1, line, column + 1⟩
      = .ok (text, ⟨x, index + 1 + (Cursor.width body + 1), line', column'⟩) ∧ line ≤ line' ∧
        ((∀ c ∈ body, isBreak c = false) → line' = line ∧
          column' = column + 1 + (body.length + 1)) :=
    readQuoted_inside h (by rw [List.length_append]; omega) (by omega) fun _ => hx
  have hdispatch : ∀ rest, step (block ⟨quoteOf single :: rest, index, line, column⟩ nest none allowed)
      (quoteOf single) rest
        = quotedScalar (block ⟨quoteOf single :: rest, index, line, column⟩ nest none allowed)
            single := by
    intro rest
    cases single <;> simp [step, block, quoteOf, Cursor.atMarker]
  refine ⟨line', column', ?_, hline, hsame⟩
  rw [hdispatch, quotedScalar, savePlace_block]
  simp only [bind, Except.bind, block, Cursor.next_cons, hsize, hread]
  rfl

/-- **A block scalar is one token.** -/
theorem step_literal {text : List Char} {next : Cursor}
    (h : readBlock true nest.indent ⟨x, index + 1, line, column + 1⟩ = .ok (text, next)) :
    step (block ⟨'|' :: x, index, line, column⟩ nest none allowed) '|' x
      = .ok (block next (nest.push [.scalar false text]) none true) := by
  have hdispatch : step (block ⟨'|' :: x, index, line, column⟩ nest none allowed) '|' x
      = blockScalar (block ⟨'|' :: x, index, line, column⟩ nest none allowed) true := by
    simp [step, block, Cursor.atMarker]
  have hnext : Cursor.next ⟨'|' :: x, index, line, column⟩ = ⟨x, index + 1, line, column + 1⟩ :=
    Cursor.next_cons ..
  rw [hdispatch, blockScalar]
  simp only [clearPlace, setPlace, block, bind, Except.bind, hnext, h]
  rfl

/-! ## Scalars on lines of their own -/

/-- The place of a scalar to the right of its collection is given up at the end of the line. -/
theorem passing_placeAt {c : Cursor} {later : Nat} (hline : c.line < later)
    (hcolumn : nest.indent < c.column) :
    Passing later (if allowed then some (placeAt nest c) else none) := by
  cases allowed
  · exact passing_none _
  · exact ⟨hline, by simpa [placeAt] using (show nest.indent ≠ c.column by omega)⟩

variable {text tail : List Char}

/-- **A plain scalar takes a round**, at the end of which the next line is reached. -/
theorem reaches_plain (h : Unquoted text) (n : Nat) (hcolumn : nest.indent < column + n)
    (htail : Lands nest.indent tail) :
    Reaches ⟨pad n ++ (text ++ '\n' :: tail), column, nest, allowed⟩
      ⟨tail, 0, nest.push [.scalar true text], true⟩ := by
  intro index line
  obtain ⟨m, x, rfl, hx, hm⟩ := htail.exists_eq
  have hmargin : x = [] ∨ (m : Int) < nest.indent + 1 := by
    rcases hm with ⟨rfl, -⟩ | hm
    · exact .inl rfl
    · exact .inr (by omega)
  obtain ⟨d, rest, htext, hbegins, hstep⟩ : ∃ d rest, text ++ '\n' :: (pad m ++ x) = d :: rest ∧
      Begins (d :: rest) ∧
      step (block ⟨text ++ '\n' :: (pad m ++ x), index + n, line, column + n⟩ nest none allowed) d rest
        = .ok (block ⟨x, index + n + Cursor.width text + 1 + m, line + 1, m⟩
            (nest.push [.scalar true text]) (if allowed then some (placeAt nest
              ⟨text ++ '\n' :: (pad m ++ x), index + n, line, column + n⟩) else none) true) :=
    step_plain h (by simp) (by omega) rfl fun _ _ => plainRest_line hx.stops hmargin
  rw [htext] at hstep ⊢
  refine ⟨_, _, leads_token (settle_here n hbegins (passing_none _) (Int.le_of_lt hcolumn)) rfl hstep
    (settle_landed hx (passing_placeAt (Nat.lt_succ_self _) (by simpa using hcolumn))) ?_⟩
  have hlength := congrArg List.length htext
  simp only [List.length_append, List.length_cons, Station.lexer, block] at hlength ⊢
  omega

/-- **A quoted scalar takes a round**, at the end of which the line ends. -/
theorem reaches_quoted {single : Bool} {body : List Char} (h : Inside single text body) (n : Nat)
    (hcolumn : nest.indent < column + n) (htail : Lands nest.indent tail) :
    Reaches
      ⟨pad n ++ (quoteOf single :: (body ++ quoteOf single :: '\n' :: tail)), column, nest, allowed⟩
      ⟨tail, 0, nest.push [.scalar false text], true⟩ := by
  intro index line
  obtain ⟨m, x, rfl, hx, -⟩ := htail.exists_eq
  obtain ⟨line', column', hstep, hline, -⟩ := step_quoted h
    (show ('\n' :: (pad m ++ x)).head? ≠ some '\'' by simp) nest allowed (index + n) line (column + n)
  refine ⟨_, _, leads_token (settle_here n (begins_quote single _) (passing_none _)
    (Int.le_of_lt hcolumn)) rfl hstep (settle_closed hx (passing_placeAt (Nat.lt_succ_of_le hline)
      (by simpa using hcolumn))) ?_⟩
  simp only [List.length_append, List.length_cons, Station.lexer, block]
  omega

/-- **A block scalar takes a round**, at the end of which the next line is reached. -/
theorem reaches_literal (hne : text ≠ []) (hprintable : ∀ c ∈ text, Style.isPrintable c = true)
    {indent : Nat} (hindent : indent = (max nest.indent 0).toNat + 2) (n : Nat)
    (hcolumn : nest.indent < column + n) (htail : Lands nest.indent tail) :
    Reaches
      ⟨pad n ++ (literalHeader text ++ '\n' :: (closeLine (literalBody indent true text) ++ tail)),
        column, nest, allowed⟩
      ⟨tail, 0, nest.push [.scalar false text], true⟩ := by
  intro index line
  obtain ⟨m, x, rfl, hx, hm⟩ := htail.exists_eq
  obtain ⟨header, index', line', hheader, hread⟩ : ∃ header index' line',
      literalHeader text = '|' :: header ∧ readBlock true nest.indent
        ⟨header ++ '\n' :: (closeLine (literalBody indent true text) ++ (pad m ++ x)), index + n + 1,
          line, column + n + 1⟩
        = .ok (text, ⟨x, index' + m, line', m⟩) :=
    readBlock_literal hne hprintable hindent (by omega) hx.stops
  have hbegins : Begins ('|' :: (header ++
      '\n' :: (closeLine (literalBody indent true text) ++ (pad m ++ x)))) :=
    ⟨rfl, by decide, by decide⟩
  rw [hheader]
  refine ⟨_, _, leads_token (settle_here n hbegins (passing_none _) (Int.le_of_lt hcolumn)) rfl
    (step_literal hread) (settle_landed hx (passing_none _)) ?_⟩
  simp only [List.length_append, List.length_cons, Station.lexer, block]
  omega

/-- Whether a string's token is that of a plain scalar. -/
def isPlain (text : List Char) (asKey : Bool) : Bool := Style.ofText text asKey = .plain

/-- **A string takes a round**, whatever its style. -/
theorem reaches_stringText {indent : Nat} (hindent : indent = (max nest.indent 0).toNat + 2) (n : Nat)
    (hcolumn : nest.indent < column + n) (htail : Lands nest.indent tail) :
    Reaches ⟨pad n ++ (stringText indent text ++ tail), column, nest, allowed⟩
      ⟨tail, 0, nest.push [.scalar (isPlain text false) text], true⟩ := by
  rw [isPlain, stringText]
  by_cases hliteral : Style.ofText text false = .literal
  · obtain ⟨hne, hprintable⟩ := printable_of_style hliteral
    simp only [hliteral, if_true, List.append_assoc, List.cons_append]
    exact reaches_literal hne hprintable hindent n hcolumn htail
  · by_cases hplain : Style.ofText text false = .plain
    · simp only [hplain, reduceCtorEq, if_false, inlineText, List.append_assoc, List.cons_append,
        List.nil_append, decide_true]
      exact reaches_plain (unquoted_of_style hplain).1 n hcolumn htail
    · obtain ⟨single, body, hinline, hinside, -⟩ := inlineText_quoted (by omega : 1 ≤ indent) hplain
      simp only [if_neg hliteral, hinline, hplain, decide_false, List.cons_append, List.append_assoc,
        List.nil_append]
      exact reaches_quoted hinside n hcolumn htail

end Tokens

end Lexer

end SchemaForms.Yaml
