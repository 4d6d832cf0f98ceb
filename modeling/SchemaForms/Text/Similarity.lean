/-!
# Text/Similarity — how alike two texts are

A character of one text meets an equal one of the other that no earlier character has met and that is
not far away.  Two texts are the more alike the larger the part of each of them is that meets the
other, and the fewer of the characters that meet stand in another order there: the likeness is the
mean of these three parts.  Texts are similar from seven tenths on, and of the similar ones among some
names the most alike is worth a hint.
-/

namespace SchemaForms.Text

/-! ## Meeting characters -/

/-- How far away an equal character can be. -/
def reach (a b : List Char) : Nat := max a.length b.length / 2 - 1

/-- The place in `b` of the character that `c`, which is at `place`, meets; `met` are not free. -/
def meet? (reach : Nat) (b : List Char) (met : List Nat) (place : Nat) (c : Char) : Option Nat :=
  let first := place - reach
  let last := min b.length (place + reach + 1)
  (List.range' first (last - first)).find? fun other => b[other]? = some c && !met.contains other

/-- The places in `b` that the characters of `a` meet, in the order of `a`. -/
def meetings (a b : List Char) : List Nat :=
  a.zipIdx.foldl (fun met (c, place) => met ++ (meet? (reach a b) b met place c).toList) []

/-- How many pairs of the characters that meet stand in another order. -/
def transpositions (met : List Nat) (b : List Char) : Nat :=
  let there := met.filterMap (b[·]?)
  let here := ((List.range b.length).filter met.contains).filterMap (b[·]?)
  (there.zip here).countP (fun (c, d) => c != d) / 2

/-! ## Likeness -/

/-- A part of a whole. -/
structure Share where
  part : Nat
  whole : Nat

/-- Whether one share is not larger than another. -/
def Share.le (x y : Share) : Bool := x.part * y.whole ≤ y.part * x.whole

/-- The mean of the parts that meet and of those among them that keep their order. -/
def likeness (a b : List Char) : Share :=
  let met := meetings a b
  let m := met.length
  if m = 0 then ⟨0, 1⟩
  else
    let kept := m - transpositions met b
    ⟨m * m * b.length + m * m * a.length + kept * a.length * b.length, 3 * m * a.length * b.length⟩

/-- The likeness from which on two texts are similar. -/
def threshold : Share := ⟨7, 10⟩

/-- The names that are similar to a text, the most alike last. -/
def similarNames (text : String) (names : List String) : List String :=
  let shares := names.map fun name => (likeness text.toList name.toList, name)
  ((shares.filter (threshold.le ·.1)).mergeSort fun x y => x.1.le y.1).map (·.2)

/-- The name that is most like a text, if one is similar. -/
def similarName? (text : String) (names : List String) : Option String :=
  (similarNames text names).getLast?

end SchemaForms.Text
