import SchemaForms.Session.Description
import SchemaForms.Session.Property
import SchemaForms.Session.Text

/-!
# Session/Action — what a person does at one go

Everything that is done to a session without waiting for a schema.  An action that is refused may
still leave a word with an editor; `act` goes on with the session as the action leaves it.
-/

namespace SchemaForms.Session

/-- What a person does to a session at one go. -/
inductive Action where
  | remove (path : Path)
  | move (array : Path) (source target : Nat)
  | insert (insertion : Insertion) (definition : Catalog.Definition)
  | append (path : Path) (item : Value)
  | input (path : Path) (entered : FieldInput)
  | inputText (path : Path) (text : String)
  | switchMode (path : Path) (mode : EditMode)
  | addProperty (path : Path) (key : String) (kind : Primitive)
  | render (path : Path)

/-- The session that an edit leads to; an edit that is refused leads nowhere. -/
def after {ε α : Type} (session : Session) (result : Except ε (α × Session)) : Session :=
  match result with
  | .ok (_, next) => next
  | .error _ => session

@[simp] theorem after_ok {ε α : Type} (session next : Session) (a : α) :
    session.after (.ok (a, next) : Except ε (α × Session)) = next := rfl

/-- The session after an action. -/
def act (session : Session) : Action → Session
  | .remove path => session.after (session.remove path)
  | .move array source target =>
    match session.move array source target with
    | .ok next => next
    | .error _ => session
  | .insert insertion definition => session.after (session.insertBlock insertion definition)
  | .append path item => session.after (session.append path item)
  | .input path entered => (session.input? path entered).getD session
  | .inputText path text => (session.inputText path text).1
  | .switchMode path mode => (session.switchMode path mode).1
  | .addProperty path key kind => (session.addProperty path key kind).1
  | .render path => (session.render path).2

end SchemaForms.Session
