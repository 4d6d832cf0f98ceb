import SchemaForms.Yaml.Event
import SchemaForms.Yaml.Resolve

/-!
# Yaml/Reader — YAML text to document values

The events of the document are read into a value.  An alias is read by reading again from where its
anchor stands, within a bound on the number of such jumps and on the depth of collections.

Anchors are numbered by how many different names were known when they were set, and an alias means
the last node set under the number of its name; a name that is set twice can therefore share the
number of a later one.
-/

namespace SchemaForms.Yaml

/-- An event whose alias is resolved to a number. -/
inductive Step where
  | alias (anchor : Nat)
  | scalar (tag : Option Tag) (plain : Bool) (text : List Char)
  | sequenceStart (tag : Option Tag)
  | sequenceEnd
  | mappingStart (tag : Option Tag)
  | mappingEnd
  deriving DecidableEq

/-- The anchors of a document: the number of each name, and for each number where its node stands,
the last one first. -/
structure Anchors where
  names : List (List Char × Nat)
  places : List (Nat × Nat)

namespace Anchors

/-- The number of a name. -/
def number? (anchors : Anchors) (name : List Char) : Option Nat :=
  (anchors.names.find? (·.1 = name)).map (·.2)

/-- Sets an anchor at a place. -/
def set (anchors : Anchors) (name : Option (List Char)) (place : Nat) : Anchors :=
  match name with
  | none => anchors
  | some name =>
    let number := anchors.names.length
    ⟨if (anchors.number? name).isSome then
        anchors.names.map fun entry => if entry.1 = name then (name, number) else entry
      else anchors.names ++ [(name, number)],
     (number, place) :: anchors.places⟩

/-- Where the node of a number stands. -/
def place? (anchors : Anchors) (number : Nat) : Option Nat :=
  (anchors.places.find? (·.1 = number)).map (·.2)

end Anchors

/-- Resolves the aliases of a document, in order. -/
def resolveAliases : List Event → Nat → Anchors → Except Fault (List Step × Anchors)
  | [], _, anchors => .ok ([], anchors)
  | event :: events, place, anchors =>
    let goOn (step : Step) (name : Option (List Char)) : Except Fault (List Step × Anchors) :=
      (resolveAliases events (place + 1) (anchors.set name place)).map fun (steps, anchors) =>
        (step :: steps, anchors)
    match event with
    | .alias name =>
      match anchors.number? name with
      | some number => goOn (.alias number) none
      | none => .error .alias
    | .scalar properties plain text => goOn (.scalar properties.tag plain text) properties.anchor
    | .sequenceStart properties => goOn (.sequenceStart properties.tag) properties.anchor
    | .sequenceEnd => goOn .sequenceEnd none
    | .mappingStart properties => goOn (.mappingStart properties.tag) properties.anchor
    | .mappingEnd => goOn .mappingEnd none

/-- A document ready to be read. -/
structure Document where
  steps : List Step
  anchors : Anchors

namespace Document

/-- How many aliases may be followed. -/
def jumpLimit (document : Document) : Nat := document.steps.length * 100

/-- How many collections may be open. -/
def depthLimit : Nat := 128

/-- The steps from the node of an anchor on. -/
def stepsFrom? (document : Document) (anchor : Nat) : Option (List Step) :=
  (document.anchors.place? anchor).map fun place => document.steps.drop place

/-- What is left after reading a node: the steps behind it and the jumps still allowed. -/
structure Left where
  steps : List Step
  jumps : Nat

/-- Reads a key: a scalar, or an alias of one.  Its text counts, whatever it would mean. -/
def readKey (document : Document) : Nat → Left → Except Fault (String × Left)
  | 0, _ => .error .depth
  | fuel + 1, left =>
    match left.steps with
    | .scalar _ _ text :: steps => .ok (String.ofList text, { left with steps := steps })
    | .alias anchor :: steps =>
      match left.jumps, document.stepsFrom? anchor with
      | jumps + 1, some target =>
        (readKey document fuel ⟨target, jumps⟩).map fun (key, left) =>
          (key, { left with steps := steps })
      | _, _ => .error .alias
    | _ => .error .key

mutual

/-- Reads a node; `room` collections may still be opened. -/
def readNode (document : Document) (fuel room : Nat) (left : Left) : Except Fault (Value × Left) :=
  match fuel with
  | 0 => .error .depth
  | fuel + 1 =>
    match left.steps with
    | .scalar tag plain text :: steps =>
      (scalarValue tag plain text).map fun value => (value, { left with steps := steps })
    | .alias anchor :: steps =>
      match left.jumps, document.stepsFrom? anchor with
      | jumps + 1, some target =>
        (readNode document fuel room ⟨target, jumps⟩).map fun (value, left) =>
          (value, { left with steps := steps })
      | _, _ => .error .alias
    | .sequenceStart tag :: steps =>
      if tag.any Tag.isLocal then .error .tag
      else if room = 0 then .error .depth
      else (readItems document fuel (room - 1) { left with steps := steps }).map
        fun (items, left) => (.arr items, left)
    | .mappingStart tag :: steps =>
      if tag.any Tag.isLocal then .error .tag
      else if room = 0 then .error .depth
      else (readMembers document fuel (room - 1) { left with steps := steps }).map
        fun (writes, left) => (.obj (Table.ofWrites writes), left)
    | _ => .error .nesting

/-- Reads the elements of a sequence up to its end. -/
def readItems (document : Document) (fuel room : Nat) (left : Left) :
    Except Fault (List Value × Left) :=
  match fuel with
  | 0 => .error .depth
  | fuel + 1 =>
    match left.steps with
    | .sequenceEnd :: steps => .ok ([], { left with steps := steps })
    | _ => do
      let (item, left) ← readNode document fuel room left
      let (items, left) ← readItems document fuel room left
      .ok (item :: items, left)

/-- Reads the members of a mapping up to its end, in the order of the text. -/
def readMembers (document : Document) (fuel room : Nat) (left : Left) :
    Except Fault (List (String × Value) × Left) :=
  match fuel with
  | 0 => .error .depth
  | fuel + 1 =>
    match left.steps with
    | .mappingEnd :: steps => .ok ([], { left with steps := steps })
    | _ => do
      let (key, left) ← readKey document fuel left
      let (value, left) ← readNode document fuel room left
      let (members, left) ← readMembers document fuel room left
      .ok ((key, value) :: members, left)

end

/-- The value of a document.  A nest of collections is never deeper than the bound, and each is no
longer than the document, which bounds the fuel. -/
def value (document : Document) : Except Fault Value :=
  let fuel := (depthLimit + 2) * (document.steps.length + 2)
  (readNode document fuel depthLimit ⟨document.steps, document.jumpLimit⟩).map (·.1)

end Document

/-- Reads a whole text; an empty one is null. -/
def readText (text : List Char) : Except Fault Value := do
  let tokens ← Token.ofText text
  let events ← Event.ofTokens tokens
  if events.isEmpty then .ok .null
  else
    let (steps, anchors) ← resolveAliases events 0 ⟨[], []⟩
    Document.value ⟨steps, anchors⟩

/-- Reads a whole text; the error is the message. -/
def parse (text : String) : Except String Value :=
  match readText text.toList with
  | .ok value => .ok value
  | .error fault => .error fault.message

end SchemaForms.Yaml
