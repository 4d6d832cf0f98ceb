import SchemaForms.Session.Basic

/-!
# Session/Text — editing as text

Every text that can be read is written to the document at once; one that cannot be read leaves the
document alone.  The text mode is left only with a text that can be read, and a text that is still
the baseline is not written again.
-/

namespace SchemaForms.Session

/-- Takes a new text over from an editor in a text mode; in the form nothing happens. -/
def inputText (session : Session) (path : Path) (text : String) :
    Session × Except EditError Unit :=
  let state := session.editorAt path
  match state.mode with
  | .structured => (session.setEditor path state, .ok ())
  | .text format =>
    let typed := { state with text := text }
    match format.read text with
    | .error e => (session.setEditor path { typed with parseError := some e }, .error (.parse e))
    | .ok value =>
      match session.write path value with
      | .error e => (session.setEditor path typed, .error (.store e))
      | .ok written =>
        (written.setEditor path { typed with parseError := none, baseline := some text }, .ok ())

/-- The state of an editor that goes on to another mode with a value. -/
def showAs (state : EditorState) (mode : EditMode) (value : Option Value) : EditorState :=
  match mode with
  | .structured => state.leaveText
  | .text format => state.enterText format value

/-- Writes the value of an editor's text, unless the text is the baseline. -/
def writeText (session : Session) (path : Path) (state : EditorState) (value : Value) :
    Except StoreError Session :=
  if state.baseline = some state.text then .ok session else session.write path value

/-- Leaves a text mode for another mode. -/
def leaveTextFor (session : Session) (path : Path) (state : EditorState) (format : Format)
    (mode : EditMode) : Session × Except EditError Unit :=
  match format.read state.text with
  | .error e => (session.setEditor path { state with parseError := some e }, .error (.parse e))
  | .ok value =>
    match session.writeText path state value with
    | .error e => (session, .error (.store e))
    | .ok written => (written.setEditor path (showAs state mode (some value)), .ok ())

/-- Switches the mode of an editor.  A text that cannot be read keeps its mode. -/
def switchMode (session : Session) (path : Path) (mode : EditMode) :
    Session × Except EditError Unit :=
  let state := session.editorAt path
  if state.mode = mode then (session.setEditor path state, .ok ())
  else
    match state.mode with
    | .structured => (session.setEditor path (showAs state mode (session.value? path)), .ok ())
    | .text format => session.leaveTextFor path state format mode

end SchemaForms.Session
