/-!
# Url/Punycode — labels beyond ASCII

A label with characters beyond ASCII is written as its ASCII characters, followed by where the others
go.  These are inserted in order of their code points; each insertion is a distance, written in base
36 with digits that end themselves by a threshold, which adapts to the distances so far.  `decode?`
puts the characters back where `encode` took them from.
-/

namespace SchemaForms.Punycode

/-- The character of a digit below 36. -/
def digit (d : Nat) : Char := Char.ofNat (if d < 26 then 0x61 + d else 0x30 + (d - 26))

/-- The threshold of the digit at a position. -/
def threshold (position bias : Nat) : Nat := min 26 (max 1 (position - bias))

/-- A distance as digits from a position on; `fuel` bounds their number. -/
def digits (bias : Nat) : Nat → Nat → Nat → List Char
  | 0, _, distance => [digit distance]
  | fuel + 1, position, distance =>
    let t := threshold position bias
    if distance < t then [digit distance]
    else digit (t + (distance - t) % (36 - t)) ::
      digits bias fuel (position + 36) ((distance - t) / (36 - t))

/-- Brings a distance into the range from which the bias is read; `fuel` bounds the divisions. -/
def reduce : Nat → Nat → Nat → Nat × Nat
  | 0, delta, bias => (delta, bias)
  | fuel + 1, delta, bias =>
    if 455 < delta then reduce fuel (delta / 35) (bias + 36) else (delta, bias)

/-- The bias after a distance, when `count` characters are in place. -/
def adapt (delta count : Nat) (isFirst : Bool) : Nat :=
  let damped := if isFirst then delta / 700 else delta / 2
  let (rest, bias) := reduce 64 (damped + damped / count) 0
  bias + 36 * rest / (rest + 38)

/-- What has been written. -/
structure State where
  output : List Char
  delta : Nat
  bias : Nat
  count : Nat

/-- Passes a character while those with code point `n` are inserted; `basic` characters are
ASCII. -/
def pass (basic n : Nat) (state : State) (c : Char) : State :=
  if c.toNat < n then { state with delta := state.delta + 1 }
  else if c.toNat = n then
    { output := state.output ++ digits state.bias 64 36 state.delta
      delta := 0
      bias := adapt state.delta (state.count + 1) (state.count = basic)
      count := state.count + 1 }
  else state

/-- Inserts the characters with the code points in `points`, which ascend from `reached` on. -/
def insertAll (label : List Char) (basic : Nat) : List Nat → Nat → State → State
  | [], _, state => state
  | n :: points, reached, state =>
    let raised := { state with delta := state.delta + (n - reached) * (state.count + 1) }
    let passed := label.foldl (pass basic n) raised
    insertAll label basic points (n + 1) { passed with delta := passed.delta + 1 }

/-- The code points beyond ASCII, ascending and without repetition. -/
def points (label : List Char) : List Nat :=
  ((label.map Char.toNat).filter (0x80 ≤ ·)).mergeSort.eraseDups

/-- A label in ASCII. -/
def encode (label : List Char) : List Char :=
  let basic := label.filter (·.toNat < 0x80)
  let start : State := ⟨if basic.isEmpty then [] else basic ++ ['-'], 0, 72, basic.length⟩
  (insertAll label basic.length (points label) 0x80 start).output

/-! ## Reading -/

/-- The value of a digit in lower case. -/
def digitValue? (c : Char) : Option Nat :=
  if 'a' ≤ c ∧ c ≤ 'z' then some (c.toNat - 0x61)
  else if '0' ≤ c ∧ c ≤ '9' then some (c.toNat - 0x30 + 26)
  else none

/-- The numbers that a text can hold are below this bound. -/
def bound : Nat := 4294967296

/-- Adds a distance, read from a position on, to `sum`; its further digits count `weight` times. -/
def distance? (bias position weight sum : Nat) : List Char → Option (Nat × List Char)
  | [] => none
  | c :: rest =>
    match digitValue? c with
    | none => none
    | some d =>
      let t := threshold position bias
      if bound ≤ sum + d * weight then none
      else if d < t then some (sum + d * weight, rest)
      else if bound ≤ weight * (36 - t) then none
      else distance? bias (position + 36) (weight * (36 - t)) (sum + d * weight) rest

/-- Puts characters into a text: `point` is the code point reached, `next` the place after the one
put in last, and `fuel` bounds their number. -/
def insertRead (bias point next : Nat) (isFirst : Bool) :
    Nat → List Char → List Char → Option (List Char)
  | _, [], placed => some placed
  | 0, _ :: _, _ => none
  | fuel + 1, c :: text, placed =>
    match distance? bias 36 1 next (c :: text) with
    | none => none
    | some (reached, rest) =>
      let count := placed.length + 1
      let point := point + reached / count
      let place := reached % count
      if point.isValidChar then
        insertRead (adapt (reached - next) count isFirst) point (place + 1) false fuel rest
          (placed.insertIdx place (Char.ofNat point))
      else none

/-- The ASCII characters of a written label, and the distances after them. -/
def splitBasic (text : List Char) : List Char × List Char :=
  let distances := (text.reverse.takeWhile (· ≠ '-')).reverse
  (text.take (text.length - distances.length - 1), distances)

/-- The label that a text stands for. -/
def decode? (text : List Char) : Option (List Char) :=
  let (basic, distances) := splitBasic text
  insertRead 72 0x80 0 true distances.length distances basic

end SchemaForms.Punycode
