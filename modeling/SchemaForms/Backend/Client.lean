import SchemaForms.Backend.Call
import SchemaForms.Backend.Execution
import SchemaForms.Backend.UserBlock
import SchemaForms.Catalog.Basic
import SchemaForms.Config
import SchemaForms.Url.Reader

/-!
# Backend/Client — the endpoints of the backend

The backend keeps the catalog, the blocks that users define, and a playground that executes documents.
Names become segments of their endpoints.
-/

namespace SchemaForms

/-- A connection to the backend. -/
structure Client where
  base : Url

namespace Client

/-- A client for the address in the settings. -/
def ofConfig (config : Config) : Except FetchError Client :=
  match Url.parse config.apiUrl with
  | .ok base => .ok ⟨base⟩
  | .error e => .error (.transport config.apiUrl e.message)

/-- The endpoint under the base. -/
def endpoint (client : Client) (segments : List String) : Url := client.base.extend segments

/-- A request for an endpoint. -/
def request (client : Client) (method : Method) (segments : List String) (body : Option Value) :
    Request := ⟨method, client.endpoint segments, none, body⟩

/-- A call that asks for an endpoint. -/
def fetch {α : Type} (client : Client) (segments : List String) (reader : Decode.Reader α) :
    Call α := ⟨client.request .get segments none, Call.readJson reader⟩

/-! ## The catalog -/

/-- A list of blocks: as it is, or under the key `types`. -/
def decodeList : Decode.Reader (List Catalog.Definition) := fun value =>
  let definitions := Decode.list Catalog.Definition.decode
  let wrapped := do
    let fields ← Decode.record "CatalogResponse" [Decode.needed "types" definitions] value
    Decode.get fields "types" definitions
  match wrapped with
  | .ok found => .ok found
  | .error _ => definitions value

/-- A boolean as a parameter. -/
def flagText (flag : Bool) : String := if flag then "true" else "false"

/-- Asks for the blocks of a kind. -/
def list (client : Client) (category : Category) (withSchemas : Bool) :
    Call (List Catalog.Definition) :=
  let plain := client.request .get ["block", category.tag] none
  ⟨{ plain with parameter := some ("includeSchema", flagText withSchemas) },
    Call.readJson decodeList⟩

/-- Asks for the schema of a block. -/
def schema (client : Client) (name : String) : Call Catalog.BlockSchema :=
  client.fetch ["block", name, "schema"] Catalog.BlockSchema.decode

/-- Asks for the definition of the whole document. -/
def root (client : Client) : Call Catalog.Definition :=
  client.fetch ["automation-definition", "schema"] Catalog.Definition.decode

/-- The backend as a source of blocks. -/
def source {σ : Type} (client : Client) (transport : Transport σ) : Catalog.Source σ where
  list category := (client.list category true).run transport
  schema name state :=
    let (state, answer) := (client.schema name).run transport state
    (state, some answer)
  root := client.root.run transport

/-! ## The playground -/

/-- Executes a document. -/
def execute (client : Client) (execution : Execution) : Call ExecutionReport :=
  ⟨client.request .post ["playground", "execute"] (some execution.toValue),
    Call.readJson ExecutionReport.decode⟩

/-! ## Blocks that users define -/

/-- The segments under which the blocks of a kind are kept. -/
def userSegments (kind : UserKind) : List String := ["user-defined", kind.segment]

/-- Asks for the blocks of a kind. -/
def userBlocks (client : Client) (kind : UserKind) : Call (List UserBlock) :=
  client.fetch (userSegments kind) (Decode.list UserBlock.decode)

/-- Asks for a block. -/
def userBlock (client : Client) (kind : UserKind) (name : String) : Call UserBlock :=
  client.fetch (userSegments kind ++ [name]) UserBlock.decode

/-- Adds a block. -/
def createUserBlock (client : Client) (kind : UserKind) (block : UserBlock) :
    Except ValidationError (Call UserBlock) :=
  block.validate.map fun block =>
    ⟨client.request .post (userSegments kind) (some block.toValue),
      Call.readJson UserBlock.decode⟩

/-- Replaces the block of the same name. -/
def updateUserBlock (client : Client) (kind : UserKind) (block : UserBlock) :
    Except ValidationError (Call UserBlock) :=
  block.validate.map fun block =>
    ⟨client.request .put (userSegments kind ++ [block.name]) (some block.toValue),
      Call.readJson UserBlock.decode⟩

/-- Removes a block; whatever the answer holds is ignored. -/
def deleteUserBlock (client : Client) (kind : UserKind) (name : String) : Call Unit :=
  ⟨client.request .delete (userSegments kind ++ [name]) none, fun _ => some ()⟩

end Client

end SchemaForms
