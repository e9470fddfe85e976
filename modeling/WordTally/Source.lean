import WordTally.Record

set_option autoImplicit false

namespace WordTally

inductive SourceError where
  /-- The source may recover, so it is worth another poll later. -/
  | unavailable (text : String)
  | fatal (text : String)
  deriving DecidableEq, Repr, Inhabited

namespace SourceError

def isTransient : SourceError → Bool
  | .unavailable _ => true
  | .fatal _ => false

def message : SourceError → String
  | .unavailable text => "source temporarily unavailable: " ++ text
  | .fatal text => "source failed: " ++ text

end SourceError

/-- One answer of a source. An empty batch only says that nothing has arrived yet. -/
inductive Poll where
  | batch (records : List RawRecord)
  | endOfStream
  | failed (error : SourceError)
  /-- The answer comes after so many milliseconds. -/
  | wait (millis : Nat)
  /-- The answer never comes; while it is awaited, the run is asked to stop. -/
  | interrupted
  /-- The task that polls dies. -/
  | panicked
  deriving Inhabited

end WordTally
