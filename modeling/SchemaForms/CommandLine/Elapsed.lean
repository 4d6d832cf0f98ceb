import SchemaForms.Decimal.Layout

/-!
# CommandLine/Elapsed — times for people

The commands that take their time tell how long they took.  Two runs can be compared once these times
are hidden.
-/

namespace SchemaForms.CommandLine

/-- Digits behind the point, filled up with zeros from the left and without zeros at the end. -/
def fractionText (width part : Nat) : List Char :=
  let digits := Decimal.natText part
  let filled := List.replicate (width - digits.length) '0' ++ digits
  match (filled.reverse.dropWhile (· = '0')).reverse with
  | [] => []
  | kept => '.' :: kept

/-- A time in the largest unit of which there is at least one. -/
def elapsedText (nanoseconds : Nat) : String :=
  let inUnit (unit width : Nat) : String :=
    String.ofList (Decimal.natText (nanoseconds / unit) ++ fractionText width (nanoseconds % unit))
  if 1000000000 ≤ nanoseconds then inUnit 1000000000 9 ++ "s"
  else if 1000000 ≤ nanoseconds then inUnit 1000000 6 ++ "ms"
  else if 1000 ≤ nanoseconds then inUnit 1000 3 ++ "µs"
  else inUnit 1 0 ++ "ns"

/-! ## Hidden times -/

/-- What stands for a time that is not told. -/
def hiddenTime : String := "<time>"

/-- A text from its first parenthesis on, with the space before it. -/
def fromParenthesis? : List Char → Option (List Char)
  | ' ' :: '(' :: rest => some (' ' :: '(' :: rest)
  | _ :: rest => fromParenthesis? rest
  | [] => none

/-- A line without the time that it tells. -/
def hideTime (line : List Char) : List Char :=
  let executed := "Executed in ".toList
  let rendered := "Rendered in ".toList
  if executed.isPrefixOf line then executed ++ hiddenTime.toList
  else
    match (rendered.isPrefixOf? line).bind fromParenthesis? with
    | some count => rendered ++ hiddenTime.toList ++ count
    | none => line

/-- A text whose lines do not tell how long something took. -/
def hideTimes (text : String) : String :=
  String.ofList (['\n'].intercalate ((text.toList.splitOn '\n').map hideTime))

end SchemaForms.CommandLine
