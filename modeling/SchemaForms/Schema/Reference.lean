import SchemaForms.Text.Numeral
import SchemaForms.Value.Basic

/-!
# Schema/Reference — following references inside a schema

A fragment with a string under `$ref` stands for what its pointer leads to in the root schema, and so
on along a chain.  The number of hops is bounded; a longer chain counts as a cycle.
-/

namespace SchemaForms.Schema

/-- Why a fragment stands for nothing. -/
inductive RefError where
  | cycle (reference : String) (maxDepth : Nat)
  | notLocal (reference : String)
  deriving DecidableEq

/-- The wording of the error. -/
def RefError.message : RefError → String
  | .cycle reference maxDepth =>
    s!"Schema reference '{reference}' exceeded the maximum resolution depth of {maxDepth}"
  | .notLocal reference => s!"Schema reference '{reference}' is not a local pointer"

/-- The reference that a fragment consists of. -/
def reference? (schema : Value) : Option String := (schema.member? "$ref").bind Value.asText?

/-- Replaces every `~` that `digit` follows by `c`. -/
def replaceEscape (digit c : Char) : List Char → List Char
  | '~' :: d :: rest =>
    if d = digit then c :: replaceEscape digit c rest
    else '~' :: replaceEscape digit c (d :: rest)
  | d :: rest => d :: replaceEscape digit c rest
  | [] => []

/-- The key that a written pointer segment stands for: `~1` is a slash, then `~0` a tilde. -/
def unescape (segment : List Char) : List Char := replaceEscape '0' '~' (replaceEscape '1' '/' segment)

/-- The pointer of a reference: what follows `#/` or `#`. -/
def pointer? (reference : String) : Option (List Char) :=
  match reference.toList with
  | '#' :: '/' :: rest => some rest
  | '#' :: rest => some rest
  | _ => none

/-- One step along a pointer: a member of an object or an element of a sequence. -/
def step? (node : Value) (segment : List Char) : Option Value :=
  match node with
  | .obj members => Table.get? members (String.ofList segment)
  | .arr items => (Numeral.index? segment).bind fun i => items[i]?
  | _ => none

/-- Follows a pointer from the root. -/
def follow (root : Value) (segments : List (List Char)) : Option Value :=
  segments.foldlM step? root

/-- What a reference leads to; the empty pointer leads to the root itself. -/
def lookup (reference : String) (root : Value) : Except RefError (Option Value) :=
  match pointer? reference with
  | none => .error (.notLocal reference)
  | some [] => .ok (some root)
  | some pointer => .ok (follow root ((pointer.splitOn '/').map unescape))

/-- Follows a chain of references for `hops` more hops; `limit` is reported when they run out. -/
def resolveWithin (root : Value) (limit : Nat) : Nat → Value → Except RefError (Option Value)
  | 0, schema =>
    match reference? schema with
    | none => .ok (some schema)
    | some reference =>
      match lookup reference root with
      | .error e => .error e
      | .ok none => .ok none
      | .ok (some target) => .error (.cycle ((reference? target).getD "") limit)
  | hops + 1, schema =>
    match reference? schema with
    | none => .ok (some schema)
    | some reference =>
      match lookup reference root with
      | .error e => .error e
      | .ok none => .ok none
      | .ok (some target) => resolveWithin root limit hops target

/-- What a fragment stands for; nothing, when its reference leads nowhere. -/
def resolve (maxDepth : Nat) (schema root : Value) : Except RefError (Option Value) :=
  resolveWithin root maxDepth maxDepth schema

/-- The bound on hops unless set otherwise. -/
def defaultMaxDepth : Nat := 32

end SchemaForms.Schema
