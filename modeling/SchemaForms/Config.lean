import SchemaForms.Cache.Basic
import SchemaForms.Schema.Reference
import SchemaForms.Text.Numeral

/-!
# Config — settings of a session

Settings come from defaults and may be overridden by environment variables; a malformed variable is
ignored.
-/

namespace SchemaForms

/-- The settings of a session and of its connection to the backend. -/
structure Config where
  apiUrl : String
  policy : CachePolicy
  maxRefDepth : Nat
  maxRenderDepth : Nat
  timeoutSeconds : Nat

namespace Config

/-- The settings that hold unless others are given. -/
def default : Config := ⟨"http://localhost:8080", .reuse, Schema.defaultMaxDepth, 32, 30⟩

/-- The variable that holds the address of the backend. -/
def urlVariable : String := "BLOCKFORM_API_URL"

/-- The variable that holds the cache policy. -/
def policyVariable : String := "BLOCKFORM_CACHE_POLICY"

/-- The variable that holds the time limit of requests, in seconds. -/
def timeoutVariable : String := "BLOCKFORM_REQUEST_TIMEOUT_SECS"

/-- The defaults overridden by the variables that are set and make sense. -/
def ofEnvironment (environment : List (String × String)) : Config where
  apiUrl := (Table.get? environment urlVariable).getD default.apiUrl
  policy := ((Table.get? environment policyVariable).bind CachePolicy.ofText?).getD default.policy
  maxRefDepth := default.maxRefDepth
  maxRenderDepth := default.maxRenderDepth
  timeoutSeconds := ((Table.get? environment timeoutVariable).bind fun text =>
    Numeral.index? text.toList).getD default.timeoutSeconds

/-- The settings as a value. -/
def describe (config : Config) : Value :=
  .obj [("api_base_url", .str config.apiUrl), ("cache_policy", .str config.policy.name),
    ("max_ref_depth", .num (.int config.maxRefDepth)),
    ("max_render_depth", .num (.int config.maxRenderDepth)),
    ("request_timeout", .num (.int config.timeoutSeconds))]

end Config

end SchemaForms
