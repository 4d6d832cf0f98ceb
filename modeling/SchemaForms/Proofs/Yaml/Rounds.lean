import SchemaForms.Proofs.Yaml.Gaps

/-!
# Proofs/Yaml/Rounds — the lexer, one round after the other

A round steps over the gap before a token (`Lexer.settle`) and reads the token.  What a written text
needs of the lexer happens outside flow collections, except within an empty pair of brackets, so that
a state is a cursor, the tokens found inside the open collections (`Nest`), and the place where a key
may have begun (`Lexer.block`).  `Lexer.Leads` says that rounds take one state to another, within the
fuel that the text allows.  Where no place is kept, the line and the number of bytes do not matter:
`Station.Reaches` leaves them out.
-/

namespace SchemaForms.Yaml

/-- The tokens found, the column of the innermost block collection, and those around it. -/
structure Nest where
  found : List Token
  indent : Int
  indents : List Int

namespace Nest

/-- No collection is open. -/
def empty : Nest := ⟨[], -1, []⟩

/-- Finds tokens. -/
def push (nest : Nest) (tokens : List Token) : Nest :=
  { nest with found := tokens.reverse ++ nest.found }

/-- Opens a collection at a column, unless it is open there. -/
def enter (nest : Nest) (column : Nat) (start : Token) : Nest :=
  if nest.indent < column then ⟨start :: nest.found, column, nest.indent :: nest.indents⟩ else nest

theorem push_push (nest : Nest) (tokens more : List Token) :
    (nest.push tokens).push more = nest.push (tokens ++ more) := by
  simp [push]

theorem enter_of_lt {nest : Nest} {column : Nat} (h : nest.indent < column) (start : Token) :
    nest.enter column start
      = ⟨start :: nest.found, column, nest.indent :: nest.indents⟩ := if_pos h

theorem enter_of_eq {nest : Nest} {column : Nat} (h : nest.indent = column) (start : Token) :
    nest.enter column start = nest := if_neg (by omega)

/-- Whether it was open before or not, the collection at the column is the innermost one. -/
theorem indent_enter {nest : Nest} {column : Nat} (h : nest.indent ≤ column) (start : Token) :
    (nest.enter column start).indent = column := by
  rw [enter]
  split
  · rfl
  · omega

end Nest

namespace Lexer

/-- A state outside flow collections. -/
def block (cursor : Cursor) (nest : Nest) (place : Option KeyPlace) (keyAllowed : Bool) : Lexer :=
  ⟨cursor, nest.found, nest.indent, nest.indents, 0, [place], keyAllowed⟩

/-! ## Closing collections -/

/-- Closing further to the left takes over where closing stopped. -/
theorem unrollFrom_unrollFrom {left right : Int} (hle : left ≤ right) (hleft : -1 ≤ left)
    (indents : List Int) (indent : Int) (found : List Token) :
    unrollFrom left (unrollFrom right indents indent found).2.1
        (unrollFrom right indents indent found).1 (unrollFrom right indents indent found).2.2
      = unrollFrom left indents indent found := by
  induction indents generalizing indent found with
  | nil =>
    by_cases h : right < indent
    · have hbottom : ¬ left < -1 := by omega
      have houter : left < indent := by omega
      simp [unrollFrom, h, hbottom, houter]
    · simp [unrollFrom, h]
  | cons outer indents ih =>
    by_cases h : right < indent
    · have houter : left < indent := by omega
      simp only [unrollFrom, h, houter, if_true]
      exact ih outer _
    · simp only [unrollFrom, h, if_false]

/-- The column up to which collections are closed before the next token: all of them at the end. -/
def landing (c : Cursor) : Int := if c.rest.isEmpty then -1 else c.column

/-! ## Rounds -/

/-- The state in which the lexer reads its next token: the gap is stepped over, the place of a key
is given up if it is stale, and what lies to the right is closed. -/
def settle (lexer : Lexer) : Except Fault Lexer := do
  let (keyAllowed, c) :=
    skipGap lexer.flow (lexer.cursor.rest.length + 1) lexer.keyAllowed lexer.cursor
  let lexer ← dropStale { lexer with keyAllowed := keyAllowed, cursor := c }
  .ok (lexer.unroll (landing c))

@[simp] theorem cursor_unroll (lexer : Lexer) (column : Int) :
    (lexer.unroll column).cursor = lexer.cursor := by
  rw [unroll]
  split <;> rfl

theorem unroll_unroll {left right : Int} (hle : left ≤ right) (hleft : -1 ≤ left)
    (lexer : Lexer) : (lexer.unroll right).unroll left = lexer.unroll left := by
  by_cases hflow : lexer.flow = 0
  · have h := unrollFrom_unrollFrom hle hleft lexer.indents lexer.indent lexer.found
    simp only [unroll, hflow, ne_eq, not_true_eq_false, if_false]
    rw [h]
  · simp only [unroll, ne_eq, hflow, not_false_eq_true, if_true]

theorem cursor_dropStale {before after : Lexer} (h : dropStale before = .ok after) :
    after.cursor = before.cursor := by
  simp only [dropStale] at h
  split at h
  · exact absurd h nofun
  · exact (Except.ok.inj h) ▸ rfl

/-- **A round settles and reads a token**, or ends at the end of the text. -/
theorem run_succ (fuel : Nat) (lexer : Lexer) :
    run (fuel + 1) lexer = lexer.settle.bind fun settled =>
      match settled.cursor.rest with
      | [] => settled.clearPlace.map fun lexer => lexer.found.reverse
      | d :: rest => (settled.step d rest).bind (run fuel) := by
  rw [run, settle]
  generalize skipGap lexer.flow (lexer.cursor.rest.length + 1) lexer.keyAllowed lexer.cursor = gap
  obtain ⟨keyAllowed, c⟩ := gap
  simp only [bind, Except.bind]
  cases hstale : dropStale { lexer with keyAllowed := keyAllowed, cursor := c } with
  | error fault => rfl
  | ok kept =>
    have hcursor : kept.cursor = c := cursor_dropStale hstale
    cases hrest : c.rest with
    | nil =>
      have hunroll : (kept.unroll c.column).unroll (-1) = kept.unroll (-1) :=
        unroll_unroll (by omega) (by omega) kept
      simp only [cursor_unroll, hcursor, hrest, landing, List.isEmpty_nil, if_true, hunroll]
      cases (kept.unroll (-1)).clearPlace <;> rfl
    | cons d rest =>
      simp only [cursor_unroll, hcursor, hrest, landing, List.isEmpty_cons, Bool.false_eq_true,
        if_false]

/-- **Rounds take one state to another**, and each of them reads a character at least. -/
def Leads (before after : Lexer) : Prop :=
  ∃ rounds, rounds + after.cursor.rest.length ≤ before.cursor.rest.length ∧
    ∀ fuel, run (fuel + rounds) before = run fuel after

variable {before between after : Lexer}

theorem Leads.refl (lexer : Lexer) : lexer.Leads lexer :=
  ⟨0, by omega, fun _ => rfl⟩

theorem Leads.trans (h : before.Leads between) (h' : between.Leads after) :
    before.Leads after := by
  obtain ⟨rounds, hlength, hrun⟩ := h
  obtain ⟨more, hlength', hrun'⟩ := h'
  refine ⟨more + rounds, by omega, fun fuel => ?_⟩
  rw [← Nat.add_assoc, hrun, hrun']

/-- States that settle alike run alike. -/
theorem run_of_settle (h : before.settle = after.settle) (fuel : Nat) :
    run fuel before = run fuel after := by
  cases fuel with
  | zero => rfl
  | succ fuel => rw [run_succ, run_succ, h]

theorem leads_of_settle (h : before.settle = after.settle)
    (hlength : after.cursor.rest.length ≤ before.cursor.rest.length) : before.Leads after :=
  ⟨0, by omega, run_of_settle h⟩

/-- **One round reads one token.** -/
theorem leads_token {settled : Lexer} {d : Char} {rest : List Char}
    (hsettle : before.settle = .ok settled) (hrest : settled.cursor.rest = d :: rest)
    (hstep : settled.step d rest = .ok between) (hsame : between.settle = after.settle)
    (hlength : after.cursor.rest.length < before.cursor.rest.length) : before.Leads after := by
  refine ⟨1, by omega, fun fuel => ?_⟩
  rw [run_succ, hsettle]
  simp only [Except.bind, hrest, hstep]
  exact run_of_settle hsame fuel

/-! ## States outside flow collections -/

section Block

variable {nest : Nest} {place : Option KeyPlace} {allowed : Bool} {x : List Char}
  {index line column : Nat}

/-- A place in an earlier line is given up. -/
theorem dropStale_gone {c : Cursor} {p : KeyPlace} (hline : p.line < c.line)
    (hrequired : p.required = false) :
    dropStale (block c nest (some p) allowed) = .ok (block c nest none allowed) := by
  simp [dropStale, block, isStale, hline, hrequired]

/-- A place in the same line stays for 1024 bytes. -/
theorem dropStale_kept {c : Cursor} {p : KeyPlace} (hline : c.line ≤ p.line)
    (hindex : c.index ≤ p.index + 1024) :
    dropStale (block c nest (some p) allowed) = .ok (block c nest (some p) allowed) := by
  have hfresh : isStale c p = false := by
    simp only [isStale, Bool.or_eq_false_iff, decide_eq_false_iff_not]
    omega
  simp [dropStale, block, hfresh]

/-- Whether a place does not outlive the line of a state. -/
def Passing (line : Nat) : Option KeyPlace → Prop
  | none => True
  | some p => p.line < line ∧ p.required = false

theorem passing_none (line : Nat) : Passing line none := trivial

theorem dropStale_passing {c : Cursor} (h : Passing c.line place) :
    dropStale (block c nest place allowed) = .ok (block c nest none allowed) := by
  cases place with
  | none => rfl
  | some p => exact dropStale_gone h.1 h.2

theorem unroll_of_le {c : Cursor} {column : Int} (h : nest.indent ≤ column) :
    (block c nest place allowed).unroll column = block c nest place allowed := by
  have hclose : unrollFrom column nest.indents nest.indent nest.found
      = (nest.indent, nest.indents, nest.found) := by
    cases hindents : nest.indents <;> simp [unrollFrom, Int.not_lt.mpr h]
  simp [unroll, block, hclose]

theorem settle_block {c next : Cursor} {allowed' : Bool} {place' : Option KeyPlace}
    (hgap : skipGap 0 (c.rest.length + 1) allowed c = (allowed', next))
    (hstale : dropStale (block next nest place allowed') = .ok (block next nest place' allowed')) :
    settle (block c nest place allowed)
      = .ok ((block next nest place' allowed').unroll (landing next)) := by
  simp only [block] at hstale
  simp only [settle, block, hgap, hstale, bind, Except.bind]

/-- Spaces in front of a token. -/
theorem settle_pad (n : Nat) (hx : Begins x) (hplace : Passing line place) :
    settle (block ⟨pad n ++ x, index, line, column⟩ nest place allowed)
      = .ok ((block ⟨x, index + n, line, column + n⟩ nest none allowed).unroll
          (landing ⟨x, index + n, line, column + n⟩)) :=
  settle_block (skipGap_pad n hx) (dropStale_passing hplace)

/-- The end of a line, and the spaces in front of a token in the next one. -/
theorem settle_line (n : Nat) (hx : Begins x) (hplace : Passing (line + 1) place) :
    settle (block ⟨'\n' :: (pad n ++ x), index, line, column⟩ nest place allowed)
      = .ok ((block ⟨x, index + 1 + n, line + 1, n⟩ nest none true).unroll
          (landing ⟨x, index + 1 + n, line + 1, n⟩)) := by
  have hgap : skipGap 0 (('\n' :: (pad n ++ x)).length + 1) allowed
      ⟨'\n' :: (pad n ++ x), index, line, column⟩ = (true, ⟨x, index + 1 + n, line + 1, n⟩) :=
    skipGap_line n hx
  exact settle_block hgap (dropStale_passing hplace)

/-- A token stands to the right of the innermost collection, or at its column. -/
theorem settle_here {d : Char} (n : Nat) (hx : Begins (d :: x)) (hplace : Passing line place)
    (hindent : nest.indent ≤ column + n) :
    settle (block ⟨pad n ++ d :: x, index, line, column⟩ nest place allowed)
      = .ok (block ⟨d :: x, index + n, line, column + n⟩ nest none allowed) := by
  rw [settle_pad n hx hplace, unroll_of_le (by simpa [landing] using hindent)]

/-- The place of a key is kept up to the colon behind it. -/
theorem settle_kept {d : Char} {p : KeyPlace} (hx : Begins (d :: x)) (hindent : nest.indent ≤ column)
    (hline : line ≤ p.line) (hindex : index ≤ p.index + 1024) :
    settle (block ⟨d :: x, index, line, column⟩ nest (some p) allowed)
      = .ok (block ⟨d :: x, index, line, column⟩ nest (some p) allowed) := by
  have hgap : skipGap 0 ((d :: x).length + 1) allowed ⟨d :: x, index, line, column⟩
      = (allowed, ⟨d :: x, index, line, column⟩) := skipGap_pad 0 hx
  rw [settle_block hgap (dropStale_kept hline hindex),
    unroll_of_le (by simpa [landing] using hindent)]

/-! ## Where no key has begun -/

/-- A state in which no key may have begun before, leaving aside what lies behind it: the text that is
left, its column, what is found, and whether a key may begin. -/
structure Station where
  text : List Char
  column : Nat
  nest : Nest
  allowed : Bool

/-- The state of a lexer at a station. -/
def Station.lexer (station : Station) (index line : Nat) : Lexer :=
  block ⟨station.text, index, line, station.column⟩ station.nest none station.allowed

/-- **Rounds take one station to another**, whatever lies behind. -/
def Reaches (first last : Station) : Prop :=
  ∀ index line, ∃ index' line', (first.lexer index line).Leads (last.lexer index' line')

theorem Reaches.refl (station : Station) : Reaches station station :=
  fun index line => ⟨index, line, Leads.refl _⟩

theorem Reaches.trans {first middle last : Station} (h : Reaches first middle)
    (h' : Reaches middle last) : Reaches first last := by
  intro index line
  obtain ⟨index₁, line₁, hleads⟩ := h index line
  obtain ⟨index₂, line₂, hleads'⟩ := h' index₁ line₁
  exact ⟨index₂, line₂, hleads.trans hleads'⟩

/-! ## What follows a node -/

/-- **What follows a node that is inside a collection**: the end of the text, or a line that begins
with a token at the column of the collection or further to the left. -/
inductive Lands (limit : Int) : List Char → Prop
  | end : Lands limit []
  | line (n : Nat) {x : List Char} : (n : Int) ≤ limit → Begins x → Lands limit (pad n ++ x)

theorem Lands.exists_eq {limit : Int} {tail : List Char} (h : Lands limit tail) :
    ∃ n x, tail = pad n ++ x ∧ Begins x ∧ (x = [] ∧ n = 0 ∨ (n : Int) ≤ limit) := by
  cases h with
  | «end» => exact ⟨0, [], rfl, trivial, .inl ⟨rfl, rfl⟩⟩
  | line n hn hx => exact ⟨n, _, rfl, hx, .inr hn⟩

theorem Lands.mono {limit more : Int} {tail : List Char} (h : Lands limit tail)
    (hle : limit ≤ more) : Lands more tail := by
  cases h with
  | «end» => exact .end
  | line n hn hx => exact .line n (by omega) hx

/-- **A collection is closed** by what follows it, if that is further to the left. -/
theorem reaches_close {limit : Int} {tail : List Char} (h : Lands limit tail) {found : List Token}
    {indent outer : Int} {indents : List Int} (hlimit : limit < indent) (hindent : -1 < indent) :
    Reaches ⟨tail, 0, ⟨found, indent, outer :: indents⟩, true⟩
      ⟨tail, 0, ⟨.blockEnd :: found, outer, indents⟩, true⟩ := by
  obtain ⟨n, x, rfl, hx, hn⟩ := h.exists_eq
  refine fun index line => ⟨index, line, leads_of_settle ?_ (Nat.le_refl _)⟩
  simp only [Station.lexer]
  rw [settle_pad n hx (passing_none _), settle_pad n hx (passing_none _)]
  rw [Nat.zero_add]
  congr 1
  have hleft : landing ⟨x, index + n, line, n⟩ < indent := by
    rcases hn with ⟨rfl, -⟩ | hn
    · exact hindent
    · cases x with
      | nil => exact hindent
      | cons d x =>
        simp only [landing, List.isEmpty_cons, Bool.false_eq_true, if_false]
        omega
  simp [unroll, block, unrollFrom, hleft]

/-- A scalar at the end of which the next line is reached already. -/
theorem settle_landed {n : Nat} (hx : Begins x) (hplace : Passing line place) :
    settle (block ⟨x, index + n, line, n⟩ nest place true)
      = settle (block ⟨pad n ++ x, index, line, 0⟩ nest none true) := by
  rw [settle_pad n hx (passing_none _), Nat.zero_add]
  exact settle_pad 0 hx hplace

/-- A scalar at the end of its line. -/
theorem settle_closed {n : Nat} (hx : Begins x) (hplace : Passing (line + 1) place) :
    settle (block ⟨'\n' :: (pad n ++ x), index, line, column⟩ nest place allowed)
      = settle (block ⟨pad n ++ x, index + 1, line + 1, 0⟩ nest none true) := by
  rw [settle_line n hx hplace, settle_pad n hx (passing_none _), Nat.zero_add]

end Block

end Lexer

end SchemaForms.Yaml
