import WordTally.Json.Reader

set_option autoImplicit false

namespace WordTally.Http

open Json

def errorBody : Shape (Option String) :=
  { name := "ErrorBody"
    blank := none
    fields := [⟨"message", Option.isSome, fun _ node _ => node.text.map some, false⟩] }

/-- The message of an error, if its body holds one. -/
def errorMessage? (body : Octets) : Option String :=
  match (Document.ofOctets body).read (errorBody.read deepest) with
  | .ok message => message
  | .error _ => none

end WordTally.Http
