import SchemaForms.Path.Key
import SchemaForms.Value.Basic

/-!
# Store/Document — reading and writing inside a value

`read?` follows a path.  `write` puts a value at a path and turns everything on the way into the
container that the next step needs: what is missing or of another kind is replaced by an empty one,
and a sequence is filled with null up to the index.  `tooFar?` says where that filling would take more
than `maxPadding` elements.
-/

namespace SchemaForms.Document

/-- The value at a path. -/
def read? : Value → Path → Option Value
  | node, [] => some node
  | node, .key key :: rest => (node.member? key).bind fun child => read? child rest
  | node, .index i :: rest => (node.item? i).bind fun child => read? child rest

/-- The elements, filled with null so that `i` is an index. -/
def padTo (items : List Value) (i : Nat) : List Value :=
  items ++ List.replicate (i + 1 - items.length) .null

/-- Puts a value at a path, making containers on the way. -/
def write : Value → Path → Value → Value
  | _, [], value => value
  | node, .key key :: rest, value =>
    let members := node.asMembers?.getD []
    .obj (Table.insert members key (write ((Table.get? members key).getD .null) rest value))
  | node, .index i :: rest, value =>
    let items := padTo (node.asItems?.getD []) i
    .arr (items.set i (write (items[i]?.getD .null) rest value))

/-- The most nulls that one write may put between the end of a sequence and the slot it writes. -/
def maxPadding : Nat := 1024

/-- An index too far behind the end of its sequence. -/
structure TooFar where
  index : Nat
  length : Nat
  deriving DecidableEq

/-- The first index on a path that lies too far behind the end of its sequence; what is no sequence
counts as empty. -/
def tooFar? : Option Value → Path → Option TooFar
  | _, [] => none
  | node, .key key :: rest => tooFar? (node.bind fun value => value.member? key) rest
  | node, .index i :: rest =>
    let length := ((node.bind Value.asItems?).map List.length).getD 0
    if maxPadding < i - length then some ⟨i, length⟩
    else tooFar? (node.bind fun value => value.item? i) rest

/-- The elements with the one at `source` moved to `target`. -/
def moveItem (items : List Value) (source target : Nat) : List Value :=
  match items[source]? with
  | some item => (items.eraseIdx source).insertIdx target item
  | none => items

end SchemaForms.Document
