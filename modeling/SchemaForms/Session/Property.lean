import SchemaForms.Session.Basic

/-!
# Session/Property — adding keys that a schema does not declare

A new key is declared in the filed schema of its module, so that the next rendering shows a field for
it, and gets the value that fields of its type start with.
-/

namespace SchemaForms.Session

/-- Whether a schema declares a key. -/
def declares (schema : Value) (key : String) : Bool :=
  Table.contains (((schema.member? "properties").bind Value.asMembers?).getD []) key

/-- A schema with one more declared key.  What is no object counts as one without members. -/
def declare (schema : Value) (key : String) (kind : Primitive) : Value :=
  let members := schema.asMembers?.getD []
  let properties := ((schema.member? "properties").bind Value.asMembers?).getD []
  .obj (Table.insert members "properties"
    (.obj (Table.insert properties key (Schema.ofPrimitive kind))))

/-- A write that leaves a field dirty and no other mark. -/
def dirtyOnly : WriteOptions := ⟨false, true, false⟩

/-- The schema by which the module at a path declares keys. -/
def ownSchema (session : Session) (path : Path) : Value :=
  (session.registry.cache.peek? path).getD Schema.freeForm

/-- Adds a key to the module at a path.  The declaration stays even if the document refuses the
value. -/
def addProperty (session : Session) (path : Path) (key : String) (kind : Primitive) :
    Session × Except EditError Unit :=
  let key := String.ofList (Text.trim key.toList)
  let schema := session.ownSchema path
  if key.isEmpty then (session, .error (.validation .emptyKey))
  else if declares schema key || (session.value? (path.child key)).isSome then
    (session, .error (.validation (.duplicateKey key)))
  else
    let declared := session.setCache (session.registry.cache.set path (declare schema key kind))
    match session.store.set (path.child key) kind.default dirtyOnly with
    | .error e => (declared, .error (.store e))
    | .ok store => ({ declared with store := store }, .ok ())

end SchemaForms.Session
