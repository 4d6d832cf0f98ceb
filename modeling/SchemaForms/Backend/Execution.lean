import SchemaForms.Decode
import SchemaForms.Format

/-!
# Backend/Execution — running a document

A document is sent as text in one of the two formats, with inputs.  What comes back says whether it
was executed, with what result, and how.
-/

namespace SchemaForms

/-- Reads the name of a format as it appears in requests. -/
def Format.decode : Decode.Reader Format :=
  Decode.choice [(Format.json.tag, .json), (Format.yaml.tag, .yaml)]

/-- What is to be executed. -/
structure Execution where
  /-- The text of the document. -/
  document : String
  format : Format
  inputs : List (String × Value)
  deriving DecidableEq

namespace Execution

/-- The execution of a document in a format. -/
def ofDocument (document : Value) (format : Format) (inputs : List (String × Value)) : Execution :=
  ⟨format.write document, format, inputs⟩

/-- The request as a value. -/
def toValue (execution : Execution) : Value :=
  .obj [("automation", .str execution.document), ("format", .str execution.format.tag),
    ("inputs", .obj execution.inputs)]

/-- Reads a request. -/
def decode : Decode.Reader Execution := fun value => do
  let fields ← Decode.record "ExecuteRequest"
    [Decode.needed "automation" Decode.text, Decode.needed "format" Format.decode,
      Decode.defaulted "inputs" Decode.members] value
  .ok {
    document := ← Decode.get fields "automation" Decode.text
    format := ← Decode.get fields "format" Format.decode
    inputs := ← Decode.getD fields "inputs" Decode.members [] }

end Execution

/-- What became of an execution. -/
structure ExecutionReport where
  executed : Bool
  result : Option Value
  trace : Option Value
  error : Option String
  deriving DecidableEq

namespace ExecutionReport

/-- The report as a value. -/
def toValue (report : ExecutionReport) : Value :=
  .obj [("executed", .bool report.executed), ("result", report.result.getD .null),
    ("trace", report.trace.getD .null), ("error", .textOrNull report.error)]

/-- Reads a report. -/
def decode : Decode.Reader ExecutionReport := fun value => do
  let fields ← Decode.record "ExecuteResponse"
    [Decode.needed "executed" Decode.boolean,
      Decode.defaulted "result" (Decode.optional Decode.any),
      Decode.defaulted "trace" (Decode.optional Decode.any),
      Decode.defaulted "error" (Decode.optional Decode.text)] value
  .ok {
    executed := ← Decode.get fields "executed" Decode.boolean
    result := ← Decode.getD fields "result" (Decode.optional Decode.any) none
    trace := ← Decode.getD fields "trace" (Decode.optional Decode.any) none
    error := ← Decode.getD fields "error" (Decode.optional Decode.text) none }

end ExecutionReport

end SchemaForms
