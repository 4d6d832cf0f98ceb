import SchemaForms.Catalog.Definition
import SchemaForms.Decode
import SchemaForms.Json.Reader
import SchemaForms.Url.Basic

/-!
# Backend/Call — one request and its answer

A call is a request together with the reading of what comes back.  It fails when the request cannot be
sent, when the server refuses it, or when the answer is not of the expected form.
-/

namespace SchemaForms

/-- The method of a request. -/
inductive Method where
  | get
  | post
  | put
  | delete
  deriving DecidableEq

/-- The name of a method. -/
def Method.name : Method → String
  | .get => "GET"
  | .post => "POST"
  | .put => "PUT"
  | .delete => "DELETE"

/-- A request to an endpoint. -/
structure Request where
  method : Method
  endpoint : Url
  /-- A parameter that is added to the query of the endpoint. -/
  parameter : Option (String × String)
  body : Option Value
  deriving DecidableEq

/-- The answer of a server. -/
structure Response where
  status : Nat
  body : String

/-- Something that sends requests; no answer means that the server was not reached. -/
abbrev Transport (σ : Type) := Request → σ → σ × Option Response

/-- A transport that reaches no server. -/
def Transport.offline : Transport Unit := fun _ state => (state, none)

namespace Request

/-- The URL that the request is sent to; a user name and password that are readable travel apart from
it. -/
def target (request : Request) : Url :=
  match request.parameter with
  | some (name, value) => request.endpoint.withoutUser.withParameter name value
  | none => request.endpoint.withoutUser

/-- Characters that a host may hold, but not the host of a request. -/
def hostMisfits : List Char := ['"', '\x60', '\x7b', '\x7d']

/-- The longest URL of a request. -/
def maxLength : Nat := 65534

/-- Whether a URL can stand in a request. -/
def isSendable (url : Url) : Bool :=
  ["http", "https"].contains (String.ofList url.scheme) && decide (url.chars.length ≤ maxLength) &&
    url.authority.all fun authority => !authority.host.any hostMisfits.contains

/-- Whether there is a way to send the request. -/
def canSend (request : Request) : Bool :=
  request.endpoint.hasHost && isSendable request.target

/-- The URL that a refusal to build the request names. -/
def builtFor (request : Request) : Url :=
  if request.endpoint.hasHost then request.target else request.endpoint

end Request

/-- A request and the reading of the body that answers it. -/
structure Call (α : Type) where
  request : Request
  read : String → Option α

namespace Call

variable {α σ : Type}

/-- Reads a body as JSON. -/
def readJson (reader : Decode.Reader α) (body : String) : Option α :=
  (Json.parse body).toOption.bind fun value => (reader value).toOption

/-- What an answer means. -/
def interpret (call : Call α) (response : Response) : Except FetchError α :=
  if 200 ≤ response.status ∧ response.status < 300 then
    match call.read response.body with
    | some answer => .ok answer
    | none => .error (.undecodable call.request.endpoint.text "error decoding response body")
  else .error (.status call.request.endpoint.text response.status)

/-- Makes a call. -/
def run (call : Call α) (transport : Transport σ) (state : σ) : σ × Except FetchError α :=
  let url := call.request.endpoint.text
  if call.request.canSend then
    match transport call.request state with
    | (state, some response) => (state, call.interpret response)
    | (state, none) =>
      (state, .error (.transport url
        s!"error sending request for url ({call.request.target.text})"))
  else (state, .error (.transport url s!"builder error for url ({call.request.builtFor.text})"))

end Call

end SchemaForms
