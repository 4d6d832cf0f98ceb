/-!
# Path/Basic — addresses inside a document

A path is a list of steps, each an object key or a sequence index.  `isRelated` holds of two paths
one of which leads through the other; the order compares step by step, keys before indices.
-/

namespace SchemaForms

/-- One step into a document: an object key or a sequence index. -/
inductive Segment where
  | key (text : String)
  | index (position : Nat)
  deriving DecidableEq, Inhabited

/-- An address inside a document, from the top down. -/
abbrev Path := List Segment

/-- Keys come before indices; keys are ordered by their characters and indices by size. -/
def Segment.compare : Segment → Segment → Ordering
  | .key a, .key b => compareOfLessAndEq a b
  | .key _, .index _ => .lt
  | .index _, .key _ => .gt
  | .index a, .index b => compareOfLessAndEq a b

namespace Path

/-- The path at which an edited document lives by convention. -/
def root : Path := [.key "root"]

/-- This path extended by an object key. -/
def child (path : Path) (key : String) : Path := path ++ [.key key]

/-- This path extended by a sequence index. -/
def item (path : Path) (position : Nat) : Path := path ++ [.index position]

/-- The path one step up, and the step that was dropped. -/
def splitLast? (path : Path) : Option (Path × Segment) :=
  path.getLast?.map fun last => (path.dropLast, last)

/-- The path one step up; the empty path has none. -/
def parent? (path : Path) : Option Path := path.splitLast?.map (·.1)

/-- Whether `ancestor` is this path or leads to it. -/
def startsWith (path ancestor : Path) : Bool := ancestor.isPrefixOf path

/-- Whether one of the two paths leads through the other. -/
def isRelated (a b : Path) : Bool := startsWith a b || startsWith b a

/-- Step by step, a path before its extensions. -/
def compare : Path → Path → Ordering
  | [], [] => .eq
  | [], _ :: _ => .lt
  | _ :: _, [] => .gt
  | a :: as, b :: bs => (a.compare b).then (compare as bs)

/-- A path and its last step make up the path. -/
theorem splitLast?_eq_some {path parent : Path} {last : Segment} :
    path.splitLast? = some (parent, last) ↔ path = parent ++ [last] := by
  constructor
  · intro h
    obtain ⟨_, hlast, hsplit⟩ := Option.map_eq_some_iff.mp h
    obtain ⟨rfl, rfl⟩ := Prod.mk.inj hsplit
    obtain ⟨front, rfl⟩ := List.getLast?_eq_some_iff.mp hlast
    rw [List.dropLast_concat]
  · rintro rfl
    simp [splitLast?]

theorem startsWith_iff {path ancestor : Path} :
    startsWith path ancestor = true ↔ ancestor <+: path := List.isPrefixOf_iff_prefix

/-- Paths are not related if neither leads through the other. -/
theorem isRelated_eq_false_iff {a b : Path} : isRelated a b = false ↔ ¬ a <+: b ∧ ¬ b <+: a := by
  rw [isRelated, Bool.or_eq_false_iff, ← Bool.not_eq_true, ← Bool.not_eq_true, startsWith_iff,
    startsWith_iff, and_comm]

end Path

end SchemaForms
