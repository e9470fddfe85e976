import WordTally.Text.Quoted

set_option autoImplicit false

namespace WordTally

inductive Phase where
  | created
  | running
  | stopped
  deriving DecidableEq, Repr, Inhabited

def Phase.name : Phase → String
  | .created => "Created"
  | .running => "Running"
  | .stopped => "Stopped"

inductive StopReason where
  | requested
  | sourceExhausted
  | sourceFailed (text : String)
  | sinkFailed (text : String)
  deriving DecidableEq, Repr, Inhabited

namespace StopReason

def isFailure : StopReason → Bool
  | .sourceFailed _ | .sinkFailed _ => true
  | .requested | .sourceExhausted => false

/-- A reason as log lines and error texts show it. -/
def text : StopReason → String
  | .requested => "Requested"
  | .sourceExhausted => "SourceExhausted"
  | .sourceFailed cause => "SourceFailed(" ++ Text.quoted cause ++ ")"
  | .sinkFailed cause => "SinkFailed(" ++ Text.quoted cause ++ ")"

end StopReason

inductive Message where
  | start
  | stopRequested
  | sourceExhausted
  | sourceFailed (text : String)
  | sinkFailed (text : String)
  /-- The dispatcher and every shard have finished. -/
  | drained
  deriving DecidableEq, Repr, Inhabited

/-- The reason that a message gives to halt, if it gives one. -/
def Message.haltReason : Message → Option StopReason
  | .stopRequested => some .requested
  | .sourceExhausted => some .sourceExhausted
  | .sourceFailed cause => some (.sourceFailed cause)
  | .sinkFailed cause => some (.sinkFailed cause)
  | .start | .drained => none

inductive Effect where
  | spawnWorkers
  /-- Read no new records; the record in flight is still completed. -/
  | haltIntake
  | reportFailure (reason : StopReason)
  | releaseResources
  deriving DecidableEq, Repr, Inhabited

structure Lifecycle where
  phase : Phase
  stopReason : Option StopReason
  deriving DecidableEq, Repr

namespace Lifecycle

def new : Lifecycle := ⟨.created, none⟩

instance : Inhabited Lifecycle := ⟨new⟩

/-- Running with intake still open. -/
def accepting (state : Lifecycle) : Bool :=
  state.phase == .running && state.stopReason.isNone

/-- A reason to halt that arrives while running. -/
def halt (state : Lifecycle) (reason : StopReason) : Lifecycle × List Effect :=
  let report := if reason.isFailure then [.reportFailure reason] else []
  if state.accepting then
    ({ state with stopReason := some reason }, report ++ [.haltIntake])
  else (state, report)

def step (state : Lifecycle) (message : Message) : Lifecycle × List Effect :=
  match state.phase, message with
  | .created, .start => ({ state with phase := .running }, [.spawnWorkers])
  | .created, .stopRequested => (⟨.stopped, some .requested⟩, [])
  | .running, .drained =>
    (⟨.stopped, some (state.stopReason.getD .sourceExhausted)⟩, [.releaseResources])
  | .running, message =>
    match message.haltReason with
    | some reason => state.halt reason
    | none => (state, [])
  | _, _ => (state, [])

/-- The state after a list of messages, and all effects in order. -/
def run (state : Lifecycle) : List Message → Lifecycle × List Effect
  | [] => (state, [])
  | message :: rest =>
    let (next, effects) := state.step message
    let (last, later) := next.run rest
    (last, effects ++ later)

@[simp]
theorem run_nil (state : Lifecycle) : state.run [] = (state, []) := rfl

theorem run_cons (state : Lifecycle) (message : Message) (rest : List Message) :
    state.run (message :: rest) =
      (((state.step message).1.run rest).1,
        (state.step message).2 ++ ((state.step message).1.run rest).2) := rfl

end Lifecycle

end WordTally
