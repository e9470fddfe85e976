import WordTally.Tally

set_option autoImplicit false

namespace WordTally

inductive SinkError where
  /-- The same updates may be accepted later. -/
  | transient (text : String)
  | rejected (text : String)
  deriving DecidableEq, Repr, Inhabited

namespace SinkError

def isRetryable : SinkError → Bool
  | .transient _ => true
  | .rejected _ => false

def message : SinkError → String
  | .transient text => "sink delivery failed: " ++ text
  | .rejected text => "sink rejected updates: " ++ text

end SinkError

structure MemorySink where
  updates : List Update
  deriving DecidableEq, Repr, Inhabited

namespace MemorySink

def empty : MemorySink := ⟨[]⟩

def publish (sink : MemorySink) (updates : List Update) : MemorySink := ⟨sink.updates ++ updates⟩

/-- Everything published so far; the sink is empty afterwards. -/
def take (sink : MemorySink) : List Update × MemorySink := (sink.updates, empty)

end MemorySink

end WordTally
