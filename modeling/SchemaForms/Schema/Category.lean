import SchemaForms.Text.Basic

/-!
# Schema/Category — the kinds of blocks
-/

namespace SchemaForms

/-- The five kinds of blocks that a document is built from. -/
inductive Category where
  | variable
  | trigger
  | condition
  | action
  | result
  deriving DecidableEq

namespace Category

/-- All kinds, in the order in which they are tried. -/
def all : List Category := [.variable, .trigger, .condition, .action, .result]

/-- The tag of a kind, which is also the key that names the block inside an instance. -/
def tag : Category → String
  | .variable => "variable"
  | .trigger => "trigger"
  | .condition => "condition"
  | .action => "action"
  | .result => "result"

/-- The ending of canonical block names. -/
def suffix : Category → String
  | .variable => "Variable"
  | .trigger => "Trigger"
  | .condition => "Condition"
  | .action => "Action"
  | .result => "Result"

/-- The kind with a given tag, up to the case of ASCII letters. -/
def ofTag? (text : String) : Option Category :=
  all.find? fun category => Text.sameIgnoringCase category.tag text

/-- The complaint about a text that is no tag. -/
def unknownMessage (text : String) : String := s!"unknown block category '{text}'"

end Category

end SchemaForms
