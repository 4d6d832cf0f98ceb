import SchemaForms.Catalog.Definition
import SchemaForms.Format

/-!
# Session/Editor — the state of one module editor

An editor shows its subtree as a form or as text.  The text has a baseline, the text as it was when
it last agreed with the document, so that leaving the text mode writes only what was typed and not
yet taken over.
-/

namespace SchemaForms

/-- How an editor shows its subtree. -/
inductive EditMode where
  | structured
  | text (format : Format)
  deriving DecidableEq

namespace EditMode

/-- The format of a text mode. -/
def format? : EditMode → Option Format
  | .structured => none
  | .text format => some format

/-- The name of a mode. -/
def name : EditMode → String
  | .structured => "structured"
  | .text format => format.name

end EditMode

/-- What an editor knows about its subtree before its schema is there. -/
structure Descriptor where
  name : Option String
  category : Option Category
  schema : Option Value
  deriving DecidableEq

namespace Descriptor

/-- Nothing is known. -/
def unknown : Descriptor := ⟨none, none, none⟩

/-- The schema is at hand. -/
def inline (schema : Value) : Descriptor := ⟨none, none, some schema⟩

/-- A block of a kind, whose instance will name it. -/
def block (category : Category) : Descriptor := ⟨none, some category, none⟩

/-- Whether the block's name was taken from its instance. -/
def isDerived (descriptor : Descriptor) : Bool :=
  descriptor.category.isSome && descriptor.name.isNone && descriptor.schema.isNone

/-- The name of the block at hand: the given one, or the one that the instance names. -/
def blockName? (descriptor : Descriptor) (found : Option Value) : Option String :=
  match descriptor.name, descriptor.category, found with
  | some name, _, _ => some name
  | none, some category, some value => Catalog.nameFromInstance? value category
  | none, _, _ => none

end Descriptor

/-- The state of an editor. -/
structure EditorState where
  mode : EditMode
  text : String
  /-- The text as it last agreed with the document. -/
  baseline : Option String
  parseError : Option ParseError
  fetchError : Option FetchError
  /-- The block whose schema was asked for. -/
  name : Option String
  descriptor : Option Descriptor
  /-- The number of the last mount. -/
  epoch : Nat

namespace EditorState

/-- The state before anything happened. -/
def initial : EditorState := ⟨.structured, "", none, none, none, none, none, 0⟩

/-- Shows a value as text; an undefined one as null. -/
def enterText (state : EditorState) (format : Format) (value : Option Value) : EditorState :=
  let text := format.write (value.getD .null)
  { state with
    mode := .text format
    text := text
    baseline := some text
    parseError := none }

/-- Shows the form again. -/
def leaveText (state : EditorState) : EditorState :=
  { state with mode := .structured, text := "", baseline := none, parseError := none }

/-- What a text mode shows: the format, the text, and what is wrong with it. -/
def shownText? (state : EditorState) : Option (Format × String × Option ParseError) :=
  match state.mode with
  | .structured => none
  | .text format => some (format, state.text, state.parseError)

/-- Whether a form was mounted for another block than the one that its path now holds.  Only an
editor that took its name from the instance can be. -/
def isStale (state : EditorState) (live : Option String) : Bool :=
  (state.descriptor.map Descriptor.isDerived).getD false && state.mode = .structured &&
    live.isSome && state.name ≠ live

end EditorState

end SchemaForms
