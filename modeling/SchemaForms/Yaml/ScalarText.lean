import SchemaForms.Text.Numeral
import SchemaForms.Yaml.Cursor

/-!
# Yaml/ScalarText — reading the text of a scalar

One reader for each way of writing a scalar: plain, quoted and block.  Each returns the text and the
cursor behind it.  Line breaks inside plain and quoted scalars are folded (`Gap.text`).

Readers that loop over lines take `fuel`; the length of the rest of the text, plus one, is enough,
because every round reads at least one character.
-/

namespace SchemaForms.Yaml

/-! ## Gaps between words -/

/-- The blanks and breaks between two words of a scalar. -/
structure Gap where
  /-- Blanks read before any break. -/
  blanks : List Char
  /-- The first break, unless it was escaped. -/
  leading : Option Char
  /-- The further breaks. -/
  trailing : List Char
  /-- Whether a break was read. -/
  broken : Bool

/-- The gap before anything is read. -/
def Gap.empty : Gap := ⟨[], none, [], false⟩

/-- The gap after an escaped break. -/
def Gap.escapedBreak : Gap := ⟨[], none, [], true⟩

/-- What a gap contributes to the text: blanks within a line stand for themselves, a single line
feed becomes a space, and further breaks stay. -/
def Gap.text (gap : Gap) : List Char :=
  if gap.broken then
    match gap.leading with
    | some '\n' => if gap.trailing.isEmpty then [' '] else gap.trailing
    | some b => b :: gap.trailing
    | none => gap.trailing
  else gap.blanks

/-- Reads blanks and breaks.  After a break, a tab to the left of `margin` is refused. -/
def readGap (margin : Int) : Nat → Gap → Cursor → Except Fault (Gap × Cursor)
  | 0, gap, c => .ok (gap, c)
  | fuel + 1, gap, c =>
    match c.lineBreak? with
    | some (b, c) =>
      if gap.broken then readGap margin fuel { gap with trailing := gap.trailing ++ [b] } c
      else readGap margin fuel ⟨[], some b, gap.trailing, true⟩ c
    | none =>
      match c.peek? with
      | some b =>
        if isBlank b then
          if gap.broken then
            if b = '\t' ∧ (c.column : Int) < margin then .error .scalar
            else readGap margin fuel gap c.next
          else readGap margin fuel { gap with blanks := gap.blanks ++ [b] } c.next
        else .ok (gap, c)
      | none => .ok (gap, c)

/-! ## Plain scalars -/

/-- Whether a character ends a flow entry. -/
def isFlowIndicator (c : Char) : Bool :=
  c = ',' || c = '[' || c = ']' || c = '{' || c = '}'

/-- Reads a word of a plain scalar: it ends before a gap, before a colon that a gap follows, and in
a flow collection before a flow indicator.  There a colon may not stand directly before one. -/
def readPlainWord (inFlow : Bool) : List Char → Except Fault (List Char)
  | [] => .ok []
  | c :: rest =>
    if isGap c then .ok []
    else if inFlow && c = ':' && (rest.head?.map fun d => isFlowIndicator d || d = '?').getD false then
      .error .scalar
    else if c = ':' && startsGap rest then .ok []
    else if inFlow && isFlowIndicator c then .ok []
    else (readPlainWord inFlow rest).map (c :: ·)

/-- A scalar's text, the cursor behind it, and whether a line break was read last. -/
structure PlainText where
  text : List Char
  cursor : Cursor
  broken : Bool

/-- Reads the words of a plain scalar; `gap` is what was read behind the last one. -/
def readPlain (inFlow : Bool) (margin : Int) : Nat → Gap → Cursor → Except Fault PlainText
  | 0, gap, c => .ok ⟨[], c, gap.broken⟩
  | fuel + 1, gap, c =>
    if c.atMarker || c.isAt '#' then .ok ⟨[], c, gap.broken⟩
    else do
      let word ← readPlainWord inFlow c.rest
      if word.isEmpty then .ok ⟨[], c, gap.broken⟩
      else
        let c := c.skip word.length
        let front := gap.text ++ word
        if startsGap c.rest && !c.rest.isEmpty then
          let (gap, c) ← readGap margin (c.rest.length + 1) .empty c
          if !inFlow && decide ((c.column : Int) < margin) then .ok ⟨front, c, gap.broken⟩
          else (readPlain inFlow margin fuel gap c).map fun more =>
            { more with text := front ++ more.text }
        else .ok ⟨front, c, false⟩

/-! ## Quoted scalars -/

/-- The character that a one-letter escape stands for. -/
def shortEscape? (c : Char) : Option Char :=
  if c = '0' then some '\x00' else if c = 'a' then some '\x07' else if c = 'b' then some '\x08'
  else if c = 't' ∨ c = '\t' then some '\t' else if c = 'n' then some '\n'
  else if c = 'v' then some '\x0b' else if c = 'f' then some '\x0c'
  else if c = 'r' then some '\r' else if c = 'e' then some '\x1b' else if c = ' ' then some ' '
  else if c = '"' then some '"' else if c = '/' then some '/' else if c = '\\' then some '\\'
  else if c = 'N' then some '\x85' else if c = '_' then some '\xa0'
  else if c = 'L' then some '\u2028' else if c = 'P' then some '\u2029' else none

/-- How many hexadecimal digits an escape takes. -/
def escapeWidth? (c : Char) : Option Nat :=
  if c = 'x' then some 2 else if c = 'u' then some 4 else if c = 'U' then some 8 else none

/-- Decodes what follows a backslash: the character and how many characters it took. -/
def readYamlEscape : List Char → Except Fault (Char × Nat)
  | [] => .error .scalar
  | c :: rest =>
    match shortEscape? c with
    | some d => .ok (d, 1)
    | none =>
      match escapeWidth? c with
      | none => .error .scalar
      | some width =>
        let digits := rest.take width
        match Numeral.natural? 16 digits with
        | none => .error .scalar
        | some n =>
          if digits.length < width ∨ (0xD800 ≤ n ∧ n ≤ 0xDFFF) ∨ 0x10FFFF < n then .error .scalar
          else .ok (Char.ofNat n, width + 1)

/-- What ends a word of a quoted scalar. -/
inductive QuotedEnd where
  | quote
  | gap
  | escapedBreak

/-- Reads a word of a quoted scalar: its text, how many characters it took, and its end.  The first
`skip` characters belong to an escape that is decoded already. -/
def readQuotedWord (single : Bool) (skip : Nat) :
    List Char → Except Fault (List Char × Nat × QuotedEnd)
  | [] => .ok ([], 0, .gap)
  | c :: rest =>
    match skip with
    | skip + 1 => (readQuotedWord single skip rest).map fun (t, n, e) => (t, n + 1, e)
    | 0 =>
      if isGap c then .ok ([], 0, .gap)
      else if single then
        if c = '\'' then
          if rest.head? = some '\'' then
            (readQuotedWord single 1 rest).map fun (t, n, e) => ('\'' :: t, n + 1, e)
          else .ok ([], 0, .quote)
        else (readQuotedWord single 0 rest).map fun (t, n, e) => (c :: t, n + 1, e)
      else if c = '"' then .ok ([], 0, .quote)
      else if c = '\\' then
        if (rest.head?.map isBreak).getD false then .ok ([], 1, .escapedBreak)
        else match readYamlEscape rest with
          | .error fault => .error fault
          | .ok (d, used) =>
            (readQuotedWord single used rest).map fun (t, n, e) => (d :: t, n + 1, e)
      else (readQuotedWord single 0 rest).map fun (t, n, e) => (c :: t, n + 1, e)

/-- Reads a quoted scalar behind its opening quote, up to and with the closing one. -/
def readQuoted (single : Bool) : Nat → Cursor → Except Fault (List Char × Cursor)
  | 0, _ => .error .scalar
  | fuel + 1, c =>
    if c.atMarker || c.rest.isEmpty then .error .scalar
    else do
      let (word, used, stop) ← readQuotedWord single 0 c.rest
      let c := c.skip used
      let goOn (gap : Gap) (c : Cursor) : Except Fault (List Char × Cursor) := do
        let (gap, c) ← readGap (-1) (c.rest.length + 1) gap c
        let (more, c) ← readQuoted single fuel c
        .ok (word ++ gap.text ++ more, c)
      match stop with
      | .quote => .ok (word, c.next)
      | .gap => goOn .empty c
      | .escapedBreak =>
        match c.lineBreak? with
        | some (_, c) =>
          if c.isAt (if single then '\'' else '"') then .ok (word, c.next) else goOn .escapedBreak c
        | none => .error .scalar

/-! ## Block scalars -/

/-- What happens to the line breaks at the end of a block scalar. -/
inductive Chomping where
  | strip
  | clip
  | keep
  deriving DecidableEq

/-- Reads the header of a block scalar behind its indicator: chomping and indentation, in either
order. -/
def readBlockHeader (c : Cursor) : Except Fault (Chomping × Nat × Cursor) :=
  let chomping? (c : Cursor) : Option (Chomping × Cursor) :=
    if c.isAt '+' then some (.keep, c.next) else if c.isAt '-' then some (.strip, c.next) else none
  let increment? (c : Cursor) : Option (Nat × Cursor) :=
    (c.peek?.bind (Numeral.digit? 10)).map fun d => (d, c.next)
  let (chomping, increment, c) := match chomping? c with
    | some (chomping, c) =>
      match increment? c with
      | some (d, c) => (chomping, some d, c)
      | none => (chomping, none, c)
    | none =>
      match increment? c with
      | some (d, c') =>
        match chomping? c' with
        | some (chomping, c') => (chomping, some d, c')
        | none => (.clip, some d, c')
      | none => (.clip, none, c)
  if increment = some 0 then .error .scalar else .ok (chomping, increment.getD 0, c)

/-- Reads the empty lines before a line of a block scalar, and the indentation of that line.  An
indentation of zero is not yet known; the deepest column met is reported to settle it. -/
def readBlockBreaks (indent : Nat) : Nat → Nat → Cursor → Except Fault (List Char × Nat × Cursor)
  | 0, deepest, c => .ok ([], deepest, c)
  | fuel + 1, deepest, c =>
    let spaces := (c.rest.takeWhile (· = ' ')).length
    let c := c.skip (if indent = 0 then spaces else min spaces (indent - c.column))
    let deepest := max deepest c.column
    if c.isAt '\t' ∧ (indent = 0 ∨ c.column < indent) then .error .scalar
    else match c.lineBreak? with
      | none => .ok ([], deepest, c)
      | some (b, c) =>
        (readBlockBreaks indent fuel deepest c).map fun (bs, deepest, c) => (b :: bs, deepest, c)

/-- Reads the lines of a block scalar: `leading` is the break of the line before, `trailing` the
empty lines behind it, and `blank` whether that line began with a blank.  The result ends with the
text, the last break and the last empty lines. -/
def readBlockLines (literal : Bool) (indent : Nat) :
    Nat → List Char → List Char → Bool → Cursor →
      Except Fault (List Char × List Char × List Char × Cursor)
  | 0, leading, trailing, _, c => .ok ([], leading, trailing, c)
  | fuel + 1, leading, trailing, blank, c =>
    if c.column ≠ indent ∨ c.rest.isEmpty then .ok ([], leading, trailing, c)
    else do
      let blankHere := (c.peek?.map isBlank).getD false
      let front :=
        if !literal && leading = ['\n'] && !blank && !blankHere then
          if trailing.isEmpty then [' '] else trailing
        else leading ++ trailing
      let line := c.rest.takeWhile fun d => !isBreak d
      let c := c.skip line.length
      let (leading, c) := match c.lineBreak? with
        | some (b, c) => ([b], c)
        | none => ([], c)
      let (trailing, _, c) ← readBlockBreaks indent (c.rest.length + 1) 0 c
      let (text, last, empties, c) ← readBlockLines literal indent fuel leading trailing blankHere c
      .ok (front ++ line ++ text, last, empties, c)

/-- Reads a block scalar behind its indicator; `parent` is the indentation of the collection that
holds it. -/
def readBlock (literal : Bool) (parent : Int) (c : Cursor) : Except Fault (List Char × Cursor) := do
  let (chomping, increment, c) ← readBlockHeader c
  let c := c.skipWhile isBlank
  let c := if c.isAt '#' then c.skipWhile fun d => !isBreak d else c
  if !startsBreak c.rest then .error .scalar
  else
    let c := match c.lineBreak? with
      | some (_, c) => c
      | none => c
    let known := if increment = 0 then 0 else (max parent 0).toNat + increment
    let (empties, deepest, c) ← readBlockBreaks known (c.rest.length + 1) 0 c
    let indent := if known = 0 then max deepest (max (parent + 1).toNat 1) else known
    let (text, last, empties, c) ←
      readBlockLines literal indent (c.rest.length + 1) [] empties false c
    let tail := match chomping with
      | .strip => []
      | .clip => last
      | .keep => last ++ empties
    .ok (text ++ tail, c)

end SchemaForms.Yaml
