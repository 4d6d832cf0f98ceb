import SchemaForms.CommandLine.Form

/-!
# CommandLine/Help — what a form is explained with

The explanation of a form says what it is for and how it is used, and then lists its commands, its
operand and its options.  The explanation of an option stands below it, the others stand beside the
names, at one distance.
-/

namespace SchemaForms.CommandLine

/-! ## Lists -/

/-- A titled list; there is none without entries. -/
def listing (title : String) (entries : List String) : String :=
  if entries.isEmpty then ""
  else s!"\n{title}:\n" ++ String.join (entries.map fun entry => s!"  {entry}\n")

/-- Names and explanations beside each other. -/
def besideEachOther (entries : List (String × String)) : List String :=
  let width := (entries.map (·.1.length)).foldl max 0
  entries.map fun (name, explanation) =>
    name ++ String.ofList (List.replicate (width - name.length + 2) ' ') ++ explanation

/-- An option above its explanation; the names are in line whether or not there is a letter. -/
def aboveExplanation (letter : Option Char) (label explanation : String) : String :=
  let start := match letter with
    | some letter => s!"-{letter}, "
    | none => "    "
  s!"{start}{label}\n          {explanation}"

/-- Two lists merged entry by entry. -/
def interleave {α : Type} : List α → List α → List α
  | x :: xs, y :: ys => x :: y :: interleave xs ys
  | [], ys => ys
  | xs, [] => xs

/-! ## Forms -/

/-- The explanation of an option, with what its value can be. -/
def Flag.fullExplanation (flag : Flag) : String :=
  let standard := match flag.standard with
    | some value => s!" [default: {value}]"
    | none => ""
  let words := match flag.kind.words with
    | [] => ""
    | words => " [possible values: " ++ ", ".intercalate words ++ "]"
  flag.explanation ++ standard ++ words

namespace Form

/-- The commands of a form. -/
def commandList (form : Form) : List String :=
  besideEachOther (form.verbs.map fun verb => (verb.name, verb.explanation))

/-- The operand of a form. -/
def operandList (form : Form) : List String :=
  besideEachOther (form.operand.toList.map fun operand => (operand.label, operand.explanation))

/-- The options of a form: a shared one goes before the one of its own at the same place. -/
def optionList (form : Form) : List String :=
  (interleave form.shared form.own).map (fun flag =>
      aboveExplanation flag.letter flag.slot.label flag.fullExplanation) ++
    form.switches.map fun switch =>
      aboveExplanation (some switch.letter) switch.label switch.explanation

/-- The explanation of a form. -/
def help (form : Form) : String :=
  s!"{form.explanation}\n\n{form.usage}\n" ++ listing "Commands" form.commandList ++
    listing "Arguments" form.operandList ++ listing "Options" form.optionList

end Form

end SchemaForms.CommandLine
