import SchemaForms.Proofs.Yaml.Scalars

/-!
# Proofs/Yaml/Marks — hyphens, question marks, colons and brackets

The marks of block collections open a collection at their column unless it is open there already.  A
key on the line of its value shows itself by its colon only: its marker, and that of a mapping it
opens, go in front of the scalar (`Lexer.reaches_simpleKey`).  A key that cannot stand there has a
question mark of its own (`Lexer.reaches_complexKey`).
-/

namespace SchemaForms.Yaml

namespace Lexer

section Marks

variable {nest : Nest} {place : Option KeyPlace} {allowed : Bool} {x : List Char}
  {index line column : Nat}

/-! ## Tokens in front of what is found -/

/-- A token goes in front of those found last. -/
theorem pushAt_push (c : Cursor) (nest : Nest) (place : Option KeyPlace) (allowed : Bool)
    (tokens : List Token) (token : Token) :
    (block c (nest.push tokens) place allowed).pushAt nest.found.length token
      = block c (nest.push (token :: tokens)) place allowed := by
  simp [pushAt, block, Nest.push]

/-- A collection is opened in front of the tokens found last. -/
theorem roll_push (c : Cursor) (nest : Nest) (place : Option KeyPlace) (allowed : Bool)
    (tokens : List Token) (column : Nat) (token : Token) :
    (block c (nest.push tokens) place allowed).roll column nest.found.length token
      = block c ((nest.enter column token).push tokens) place allowed := by
  simp only [roll, pushAt_push, Nest.enter]
  by_cases h : nest.indent < column
  · simp [block, Nest.push, h]
  · simp [block, Nest.push, h]

theorem roll_block (c : Cursor) (nest : Nest) (allowed : Bool) (column : Nat) (token : Token) :
    (block c nest none allowed).roll column nest.found.length token
      = block c (nest.enter column token) none allowed := roll_push c nest none allowed [] column token

/-! ## Marks at the column of a collection -/

theorem atMarker_eq_false (c : Char) (hx : startsGap x = true) :
    Cursor.atMarker ⟨c :: x, index, line, column⟩ = false := by
  simp only [Cursor.atMarker, Bool.and_eq_false_iff]
  right
  split
  · rename_i heq
    obtain ⟨-, rfl⟩ := List.cons.inj heq
    exact absurd hx Bool.false_ne_true
  · rename_i heq
    obtain ⟨-, rfl⟩ := List.cons.inj heq
    exact absurd hx Bool.false_ne_true
  · rfl

/-- **A hyphen is the mark of an entry.** -/
theorem step_hyphen (hx : startsGap x = true) :
    step (block ⟨'-' :: x, index, line, column⟩ nest none true) '-' x
      = .ok (block ⟨x, index + 1, line, column + 1⟩
          ((nest.enter column .blockSequenceStart).push [.blockEntry]) none true) := by
  have hdispatch : step (block ⟨'-' :: x, index, line, column⟩ nest none true) '-' x
      = blockEntry (block ⟨'-' :: x, index, line, column⟩ nest none true) := by
    simp [step, block, atMarker_eq_false '-' hx, hx]
  have hroll := roll_block ⟨'-' :: x, index, line, column⟩ nest true column .blockSequenceStart
  simp only [block] at hroll
  rw [hdispatch, blockEntry]
  simp only [block, hroll]
  rfl

/-- **A question mark is the mark of a key.** -/
theorem step_question (hx : startsGap x = true) :
    step (block ⟨'?' :: x, index, line, column⟩ nest none true) '?' x
      = .ok (block ⟨x, index + 1, line, column + 1⟩
          ((nest.enter column .blockMappingStart).push [.key]) none true) := by
  have hdispatch : step (block ⟨'?' :: x, index, line, column⟩ nest none true) '?' x
      = complexKey (block ⟨'?' :: x, index, line, column⟩ nest none true) := by
    simp [step, block, atMarker_eq_false '?' hx, hx]
  have hroll := roll_block ⟨'?' :: x, index, line, column⟩ nest true column .blockMappingStart
  simp only [block] at hroll
  rw [hdispatch, complexKey]
  simp only [block, hroll]
  rfl

theorem step_colon (hx : startsGap x = true) :
    step (block ⟨':' :: x, index, line, column⟩ nest place allowed) ':' x
      = mappingValue (block ⟨':' :: x, index, line, column⟩ nest place allowed) := by
  simp [step, block, atMarker_eq_false ':' hx, hx]

/-- **A colon at the beginning of a line is the mark of a value.** -/
theorem mappingValue_none (hindent : nest.indent = column) :
    mappingValue (block ⟨':' :: x, index, line, column⟩ nest none true)
      = .ok (block ⟨x, index + 1, line, column + 1⟩ (nest.push [.value]) none true) := by
  have hroll := roll_block ⟨':' :: x, index, line, column⟩ nest true column .blockMappingStart
  rw [Nest.enter_of_eq hindent] at hroll
  simp only [block] at hroll
  simp only [mappingValue, block, hroll]
  rfl

/-- **A colon behind a scalar shows that it was a key.** -/
theorem mappingValue_some {c : Cursor} {token : Token} :
    mappingValue (block ⟨':' :: x, index, line, column⟩ (nest.push [token]) (some (placeAt nest c))
        allowed)
      = .ok (block ⟨x, index + 1, line, column + 1⟩
          ((nest.enter c.column .blockMappingStart).push [.key, token, .value]) none false) := by
  have hpush := pushAt_push ⟨':' :: x, index, line, column⟩ nest (some (placeAt nest c)) allowed
    [token] .key
  have hroll := roll_push ⟨':' :: x, index, line, column⟩ nest (some (placeAt nest c)) allowed
    [.key, token] c.column .blockMappingStart
  simp only [mappingValue, block, placeAt] at hpush hroll ⊢
  rw [hpush, hroll]
  rfl

/-! ## Rounds of marks -/

/-- A round reads a mark that no key precedes. -/
theorem reaches_mark {d : Char} {nest' : Nest} {indent : Nat} (n : Nat) (hbegins : Begins (d :: x))
    (hindent : nest.indent ≤ indent) (hcolumn : column + n = indent)
    (hstep : ∀ index line, step (block ⟨d :: x, index, line, indent⟩ nest none allowed) d x
      = .ok (block ⟨x, index + 1, line, indent + 1⟩ nest' none true)) :
    Reaches ⟨pad n ++ d :: x, column, nest, allowed⟩ ⟨x, indent + 1, nest', true⟩ := by
  intro index line
  obtain rfl := hcolumn
  refine ⟨_, _, leads_token (settle_here n hbegins (passing_none _) hindent) rfl (hstep _ _) rfl ?_⟩
  simp only [Station.lexer, block, List.length_append, List.length_cons]
  omega

/-- **An entry begins**, in a sequence that is open at its column at the latest then. -/
theorem reaches_hyphen {indent : Nat} (n : Nat) (hx : startsGap x = true)
    (hindent : nest.indent ≤ indent) (hcolumn : column + n = indent) :
    Reaches ⟨pad n ++ '-' :: x, column, nest, true⟩
      ⟨x, indent + 1, (nest.enter indent .blockSequenceStart).push [.blockEntry], true⟩ :=
  reaches_mark n ⟨rfl, by decide, by decide⟩ hindent hcolumn fun _ _ => step_hyphen hx

/-! ## Keys -/

/-- A key on the line of its value is short and has no breaks. -/
theorem of_isSimpleKey {key : List Char} (h : isSimpleKey key = true) :
    (∀ c ∈ key, isBreak c = false) ∧ Cursor.width key ≤ 128 := by
  simpa [isSimpleKey, Cursor.width] using h

/-- **The scalar of a short key** stays within the bytes after which the place of a key is given
up. -/
theorem step_keyScalar {key text : List Char} {margin : Nat} (hkey : isSimpleKey key = true)
    (htext : text = inlineText (Style.ofText key true) margin key) (hmargin : 1 ≤ margin)
    (hx : startsGap x = true) (hindent : nest.indent ≤ column) (index line : Nat) :
    ∃ d rest index', text ++ ':' :: x = d :: rest ∧ Begins (d :: rest) ∧ x.length < rest.length ∧
      index' ≤ index + 1024 ∧
      step (block ⟨text ++ ':' :: x, index, line, column⟩ nest none true) d rest
        = .ok (block ⟨':' :: x, index', line, column + text.length⟩
            (nest.push [.scalar (isPlain key true) key])
            (some (placeAt nest ⟨text ++ ':' :: x, index, line, column⟩)) false) := by
  obtain ⟨hsolid, hwidth⟩ := of_isSimpleKey hkey
  rw [isPlain]
  by_cases hplain : Style.ofText key true = .plain
  · obtain rfl : text = key := by simpa [hplain, inlineText] using htext
    have hword : readPlainWord false (':' :: x) = .ok [] := by
      simp [readPlainWord, isGap, isBlank, isBreak, hx]
    obtain ⟨d, rest, hrest, hbegins, hstep⟩ : ∃ d rest, text ++ ':' :: x = d :: rest ∧
        Begins (d :: rest) ∧
        step (block ⟨text ++ ':' :: x, index, line, column⟩ nest none true) d rest
          = .ok (block ⟨':' :: x, index + Cursor.width text, line, column + text.length⟩
              (nest.push [.scalar true text]) (some (placeAt nest
                ⟨text ++ ':' :: x, index, line, column⟩)) false) :=
      step_plain (unquoted_of_style hplain).1 (by simp) hindent hword fun _ _ => plainRest_colon
    obtain ⟨e, more, rfl, -⟩ := (unquoted_of_style hplain).1.words.exists_cons
    have hlength : x.length < rest.length := by
      simp [← (List.cons.inj hrest).2]
      omega
    simp only [hplain, decide_true]
    exact ⟨d, rest, _, hrest, hbegins, hlength, by omega, hstep⟩
  · obtain ⟨single, body, hinline, hinside, hbody⟩ := inlineText_quoted hmargin hplain
    obtain ⟨hbreaks, hlong⟩ := hbody hsolid
    obtain ⟨line', column', hstep, -, hsame⟩ := step_quoted hinside
      (show (':' :: x).head? ≠ some '\'' by simp) nest true index line column
    obtain ⟨rfl, rfl⟩ := hsame hbreaks
    have hcolumn : column + text.length = column + 1 + (body.length + 1) := by
      simp [htext, hinline]
      omega
    rw [hcolumn, htext, hinline]
    simp only [hplain, decide_false, List.cons_append, List.append_assoc, List.nil_append]
    exact ⟨_, _, _, rfl, begins_quote single _, by simp; omega, by omega, hstep⟩

/-- **A key on the line of its value** takes two rounds. -/
theorem reaches_simpleKey {key text : List Char} {margin indent : Nat}
    (hkey : isSimpleKey key = true) (htext : text = inlineText (Style.ofText key true) margin key)
    (hmargin : 1 ≤ margin) (n : Nat) (hx : startsGap x = true) (hindent : nest.indent ≤ indent)
    (hcolumn : column + n = indent) :
    Reaches ⟨pad n ++ (text ++ ':' :: x), column, nest, true⟩
      ⟨x, indent + text.length + 1, (nest.enter indent .blockMappingStart).push
        [.key, .scalar (isPlain key true) key, .value], false⟩ := by
  intro index line
  obtain rfl := hcolumn
  obtain ⟨d, rest, index', hrest, hbegins, hlength, hindex, hstep⟩ :=
    step_keyScalar hkey htext hmargin hx hindent (index + n) line
  have hcolon : Begins (':' :: x) := ⟨rfl, by decide, by decide⟩
  have hinside : nest.indent ≤ (column + n + text.length : Nat) := by omega
  rw [hrest] at hstep ⊢
  have hscalar := leads_token (settle_here n hbegins (passing_none _) hindent) rfl hstep rfl (by
    simp only [block, List.length_append, List.length_cons]
    omega)
  exact ⟨_, _, hscalar.trans (leads_token (settle_kept hcolon hinside (Nat.le_refl _) hindex) rfl
    ((step_colon hx).trans mappingValue_some) rfl (Nat.lt_succ_self _))⟩

/-- **A key that has a line of its own** begins with a question mark, and its value with a colon. -/
theorem reaches_complexKey {indent : Nat} (key : List Char) (n : Nat) (hx : startsGap x = true)
    (hindent : nest.indent ≤ indent) (hcolumn : column + n = indent) :
    Reaches ⟨pad n ++ '?' :: (pad 1 ++ (stringText (indent + 2) key ++ (pad indent ++ ':' :: x))),
        column, nest, true⟩
      ⟨x, indent + 1, (nest.enter indent .blockMappingStart).push
        [.key, .scalar (isPlain key false) key, .value], true⟩ := by
  have hnest : ∀ tokens, ((nest.enter indent .blockMappingStart).push tokens).indent = indent :=
    fun _ => Nest.indent_enter hindent _
  have hcolon : Begins (':' :: x) := ⟨rfl, by decide, by decide⟩
  refine (reaches_mark n ⟨rfl, by decide, by decide⟩ hindent hcolumn
    fun _ _ => step_question rfl).trans ?_
  refine (reaches_stringText (by simp [hnest]) 1 (by simp only [hnest]; omega)
    (.line indent (Int.le_of_eq (hnest _).symm) hcolon)).trans ?_
  rw [Nest.push_push]
  have hvalue := reaches_mark (x := x) indent hcolon (Int.le_of_eq (hnest [.key,
    .scalar (isPlain key false) key])) (Nat.zero_add indent) fun _ _ =>
      (step_colon hx).trans (mappingValue_none (hnest _))
  rwa [Nest.push_push] at hvalue

/-- The marker of a key, its scalar, and the marker of its value. -/
def keyTokens (key : List Char) : List Token :=
  [.key, .scalar (isPlain key (isSimpleKey key)) key, .value]

/-- The place of the value of a key. -/
def valuePlace (key : List Char) : Place := if isSimpleKey key then .value else .entry

/-- A key begins with a token. -/
theorem begins_keyText (key : List Char) (indent : Nat) (x : List Char) :
    Begins ((keyText indent key).1 ++ x) := by
  rw [keyText]
  split
  · by_cases hplain : Style.ofText key true = .plain
    · simp only [hplain, inlineText, List.append_assoc]
      exact (unquoted_of_style hplain).1.begins _
    · obtain ⟨single, body, hinline, -⟩ := inlineText_quoted (by omega : 1 ≤ indent + 2) hplain
      simp only [hinline]
      exact begins_quote single _
  · exact ⟨rfl, by decide, by decide⟩

/-- Where a node of a place stands: inside the collection at column `outer`, and behind the mark of an
entry, where a key may begin, or behind a key. -/
def Stands (outer : Nat) (nest : Nest) (column : Nat) (allowed : Bool) : Place → Prop
  | .top => nest.indent = -1 ∧ column = 0 ∧ allowed = true
  | .entry => nest.indent = outer ∧ column = outer + 1 ∧ allowed = true
  | .value => nest.indent = outer ∧ outer < column

/-- **A key is read up to the place of its value.** -/
theorem exists_reaches_key (key : List Char) {indent : Nat} (n : Nat) (hx : startsGap x = true)
    (hindent : nest.indent ≤ indent) (hcolumn : column + n = indent) :
    ∃ column' allowed', Stands indent ((nest.enter indent .blockMappingStart).push (keyTokens key))
        column' allowed' (valuePlace key) ∧
      Reaches ⟨pad n ++ ((keyText indent key).1 ++ x), column, nest, true⟩
        ⟨x, column', (nest.enter indent .blockMappingStart).push (keyTokens key), allowed'⟩ := by
  have hnest : ((nest.enter indent .blockMappingStart).push (keyTokens key)).indent = indent :=
    Nest.indent_enter hindent _
  by_cases hkey : isSimpleKey key = true
  · obtain ⟨text, htext⟩ : ∃ text, text = inlineText (Style.ofText key true) (indent + 2) key :=
      ⟨_, rfl⟩
    have hreaches := reaches_simpleKey hkey htext (by omega) n hx hindent hcolumn
    refine ⟨indent + text.length + 1, false, ?_, ?_⟩
    · simpa [valuePlace, hkey] using ⟨hnest, show indent < indent + text.length + 1 by omega⟩
    · simpa [keyText, keyTokens, hkey, htext] using hreaches
  · have hreaches := reaches_complexKey key n hx hindent hcolumn
    have hkey' : isSimpleKey key = false := by simpa using hkey
    refine ⟨indent + 1, true, ?_, ?_⟩
    · simpa [valuePlace, hkey'] using ⟨hnest, rfl, rfl⟩
    · simpa [keyText, keyTokens, hkey', pad] using hreaches

/-! ## Brackets -/

/-- The brackets of empty collections, with their tokens. -/
inductive Brackets : Char → Char → Token → Token → Prop
  | sequence : Brackets '[' ']' .flowSequenceStart .flowSequenceEnd
  | mapping : Brackets '{' '}' .flowMappingStart .flowMappingEnd

/-- The state between two brackets. -/
def inBrackets (cursor : Cursor) (nest : Nest) (place : Option KeyPlace) : Lexer :=
  ⟨cursor, nest.found, nest.indent, nest.indents, 1, [none, place], true⟩

variable {opening closing : Char} {start stop : Token}

theorem Brackets.step_open (h : Brackets opening closing start stop) (x : List Char) :
    step (block ⟨opening :: x, index, line, column⟩ nest none allowed) opening x
      = .ok (inBrackets ⟨x, index + 1, line, column + 1⟩ (nest.push [start])
          (if allowed then some (placeAt nest ⟨opening :: x, index, line, column⟩) else none)) := by
  have hdispatch : step (block ⟨opening :: x, index, line, column⟩ nest none allowed) opening x
      = openFlow (block ⟨opening :: x, index, line, column⟩ nest none allowed) start := by
    cases h <;> simp [step, block, Cursor.atMarker]
  have hwidth : opening.utf8Size = 1 := by cases h <;> rfl
  rw [hdispatch, openFlow, savePlace_block]
  simp only [bind, Except.bind, block, Cursor.next_cons, hwidth]
  rfl

theorem Brackets.step_close (h : Brackets opening closing start stop) (nest : Nest) (column : Nat)
    (x : List Char) :
    step (inBrackets ⟨closing :: x, index, line, column⟩ nest place) closing x
      = .ok (block ⟨x, index + 1, line, column + 1⟩ (nest.push [stop]) place false) := by
  have hdispatch : step (inBrackets ⟨closing :: x, index, line, column⟩ nest place) closing x
      = closeFlow (inBrackets ⟨closing :: x, index, line, column⟩ nest place) stop := by
    cases h <;> simp [step, inBrackets, Cursor.atMarker]
  have hwidth : closing.utf8Size = 1 := by cases h <;> rfl
  rw [hdispatch, closeFlow]
  simp only [clearPlace, setPlace, inBrackets, bind, Except.bind, Cursor.next_cons, hwidth]
  rfl

/-- The closing bracket follows at once, so that the place of a key is kept. -/
theorem Brackets.settle_inBrackets (h : Brackets opening closing start stop) (x : List Char)
    (hplace : ∀ p ∈ place, line ≤ p.line ∧ index ≤ p.index + 1024) :
    settle (inBrackets ⟨closing :: x, index, line, column⟩ nest place)
      = .ok (inBrackets ⟨closing :: x, index, line, column⟩ nest place) := by
  have hgap : skipGap 1 ((closing :: x).length + 1) true ⟨closing :: x, index, line, column⟩
      = (true, ⟨closing :: x, index, line, column⟩) := by
    cases h <;> simp [skipGap, Cursor.isAt, Cursor.skipWhile, Cursor.skip, Cursor.lineBreak?,
      Cursor.width, isBreak]
  have hkept : dropStale (inBrackets ⟨closing :: x, index, line, column⟩ nest place)
      = .ok (inBrackets ⟨closing :: x, index, line, column⟩ nest place) := by
    cases place with
    | none => rfl
    | some p =>
      obtain ⟨hline, hindex⟩ := hplace p rfl
      have hfresh : isStale ⟨closing :: x, index, line, column⟩ p = false := by
        simp only [isStale, Bool.or_eq_false_iff, decide_eq_false_iff_not]
        omega
      simp [dropStale, inBrackets, hfresh]
  simp only [inBrackets] at hkept
  simp only [settle, inBrackets, hgap, hkept, bind, Except.bind, unroll]
  rfl

/-- **An empty collection takes two rounds**, at the end of which the line ends. -/
theorem Brackets.reaches (h : Brackets opening closing start stop) {tail : List Char} (n : Nat)
    (hcolumn : nest.indent < column + n) (htail : Lands nest.indent tail) :
    Reaches ⟨pad n ++ (opening :: closing :: '\n' :: tail), column, nest, allowed⟩
      ⟨tail, 0, nest.push [start, stop], true⟩ := by
  intro index line
  obtain ⟨m, x, rfl, hx, -⟩ := htail.exists_eq
  have hopening : Begins (opening :: closing :: '\n' :: (pad m ++ x)) := by
    cases h <;> exact ⟨rfl, by decide, by decide⟩
  obtain ⟨c, hc⟩ : ∃ c : Cursor, c = ⟨opening :: closing :: '\n' :: (pad m ++ x), index + n, line,
    column + n⟩ := ⟨_, rfl⟩
  have hkept : ∀ p ∈ (if allowed then some (placeAt nest c) else none),
      line ≤ p.line ∧ index + n + 1 ≤ p.index + 1024 := by
    intro p hp
    cases allowed
    · exact absurd hp nofun
    · obtain rfl := Option.some.inj hp
      simp only [placeAt, hc]
      omega
  have hpassing : Passing (line + 1) (if allowed then some (placeAt nest c) else none) :=
    passing_placeAt (by simp [hc]) (by simpa [hc] using hcolumn)
  have hopen : (block ⟨pad n ++ (opening :: closing :: '\n' :: (pad m ++ x)), index, line, column⟩ nest
      none allowed).Leads
      (inBrackets ⟨closing :: '\n' :: (pad m ++ x), index + n + 1, line, column + n + 1⟩
        (nest.push [start]) (if allowed then some (placeAt nest c) else none)) := by
    rw [hc]
    refine leads_token (settle_here n hopening (passing_none _) (Int.le_of_lt hcolumn)) rfl
      (h.step_open _) rfl ?_
    simp only [block, inBrackets, List.length_append, List.length_cons]
    omega
  have hclose := leads_token (h.settle_inBrackets ('\n' :: (pad m ++ x)) hkept) rfl
    (h.step_close (nest.push [start]) (column + n + 1) _) (settle_closed hx hpassing)
    (by simp only [block, inBrackets, List.length_cons]; omega)
  rw [Nest.push_push] at hclose
  exact ⟨_, _, hopen.trans hclose⟩

end Marks

end Lexer

end SchemaForms.Yaml
