import WordTally.Http.ErrorBody
import WordTally.Http.Network
import WordTally.Json.Reader

set_option autoImplicit false

namespace WordTally

inductive RegistryError where
  /-- The text tells why; the URL is that of the registry. -/
  | unreachable (url : Url) (text : String)
  | rejected (status : Nat) (text : String)
  | invalidResponse (text : String)
  deriving DecidableEq, Repr

def RegistryError.message : RegistryError → String
  | .unreachable url text => "schema registry unreachable at " ++ url.text ++ ": " ++ text
  | .rejected status text => "schema registry returned " ++ toString status ++ ": " ++ text
  | .invalidResponse text => "unexpected schema registry response: " ++ text

structure Registry where
  base : Url

namespace Registry

open Http Json

def registeredSchema : Shape (Option Nat) :=
  { name := "RegisteredSchema"
    blank := none
    fields := [⟨"id", Option.isSome, fun _ node _ => (node.natural Text.max32 "u32").map some,
      false⟩] }

def registeredId (body : Octets) : Except Fault Nat :=
  (Document.ofOctets body).read fun node => do
    required "id" (← registeredSchema.read deepest node)

def mediaType : String := "application/vnd.schemaregistry.v1+json"

def endpoint (registry : Registry) (names : List String) : Except RegistryError Url :=
  if registry.base.canBeBase then .ok (registry.base.join names)
  else .error (.invalidResponse (registry.base.text ++ " cannot be a base"))

/-- The body of a successful answer. -/
def expectSuccess (response : Response) : Except RegistryError Octets :=
  match response.body with
  | .error error => .error (.invalidResponse error.message)
  | .ok body =>
    if response.status.isSuccess then .ok body
    else .error (.rejected response.status.code
      ((errorMessage? body).getD response.status.text))

/-- Sends a request below the base and takes the body of its answer. -/
def request (registry : Registry) (method : Method) (names : List String) (body : Option Json) :
    Talk (Except RegistryError Octets) := do
  match registry.endpoint names with
  | .error error => return .error error
  | .ok url =>
    let contentType := body.map fun _ => mediaType
    match ← Network.ask ⟨method, url, contentType, some mediaType, body⟩ with
    | .error error => return .error (.unreachable registry.base error.message)
    | .ok response => return expectSuccess response

/-- Lists the subjects; any successful answer will do. -/
def checkReachable (registry : Registry) : Talk (Except RegistryError Unit) := do
  return (← registry.request .get ["subjects"] none).map fun _ => ()

/-- Registers a schema under a subject. The same schema has the same id again. -/
def register (registry : Registry) (subject schema : String) : Talk (Except RegistryError Nat) := do
  let body := Json.object [("schema", .string schema)]
  match ← registry.request .post ["subjects", subject, "versions"] (some body) with
  | .error error => return .error error
  | .ok answer =>
    match registeredId answer with
    | .error fault => return .error (.invalidResponse fault.message)
    | .ok id =>
      Network.say (.info ("schema for " ++ subject ++ " registered with id " ++ toString id))
      return .ok id

end Registry

end WordTally
