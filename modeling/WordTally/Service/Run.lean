import WordTally.Pipeline.Schedule
import WordTally.Probe
import WordTally.Registry
import WordTally.Schema
import WordTally.Service.Machine
import WordTally.Service.Session
import WordTally.Settings
import WordTally.Snapshot.Storage

set_option autoImplicit false

namespace WordTally

namespace Service

inductive Failure where
  | brokers (error : ProbeError)
  | registry (error : RegistryError)
  | inputSchema (error : RegistryError)
  | outputSchema (error : RegistryError)
  | proxy (error : ProxyError)
  | snapshot (error : SnapshotError)
  | subscription (error : SourceError)
  | pipeline (reason : StopReason)
  | panicked
  deriving DecidableEq, Repr

def Failure.message : Failure → String
  | .brokers error => "kafka brokers unreachable: " ++ error.message
  | .registry error => "schema registry unreachable: " ++ error.message
  | .inputSchema error => "input schema rejected: " ++ error.message
  | .outputSchema error => "output schema rejected: " ++ error.message
  | .proxy error => "rest proxy unreachable: " ++ error.message
  | .snapshot error => error.message
  | .subscription error => "failed to subscribe to input topic: " ++ error.message
  | .pipeline reason => "pipeline failed: " ++ reason.text
  | .panicked => Pipeline.Outcome.panicked.message

abbrev Work := ExceptT Failure (StateM Machine)

namespace Work

def say (line : LogLine) : Work Unit := modify (Machine.say line)

/-- A dialogue with the network, whose error is a failure of the service. -/
def talk {ε α : Type} (failure : ε → Failure) (dialogue : Http.Talk (Except ε α)) : Work α := do
  match ← modifyGet (Machine.talk dialogue) with
  | .ok value => return value
  | .error error => throw (failure error)

/-- A task on the disk, and the line that it logs. -/
def onDisk {α : Type} (task : Disk → Except SnapshotError (α × LogLine) × Disk) : Work α := do
  match ← modifyGet (Machine.work task) with
  | .ok (value, line) =>
    say line
    return value
  | .error error => throw (.snapshot error)

end Work

/-- How many milliseconds pass after an empty poll. -/
def idleMillis : Nat := 500

/-- What a service has when its pipeline starts. -/
structure Ready where
  consumer : Proxy.Consumer
  topic : Proxy.Topic
  tally : Tally

open Work

/-- Everything before the pipeline, in a fixed order. The first failure ends it. -/
def prepare (settings : Settings) : Work Ready := do
  say (.info ("starting " ++ settings.applicationId ++ ": " ++ settings.inputTopic ++ " -> " ++
    settings.outputTopic ++ " via " ++ settings.restProxy.text))
  let broker ← talk .brokers (Probe.run settings.brokers)
  say (.info ("using bootstrap broker " ++ broker))
  let registry : Registry := ⟨settings.schemaRegistry⟩
  talk .registry registry.checkReachable
  let _ ← talk .inputSchema
    (registry.register settings.inputSubject RecordSchema.words.text)
  let schemaId ← talk .outputSchema
    (registry.register settings.outputSubject RecordSchema.wordCount.text)
  let proxy : Proxy := ⟨settings.restProxy, idleMillis⟩
  talk .proxy proxy.checkReachable
  let tally ← onDisk (Snapshot.prepare settings.stateDir settings.applicationId settings.resetState)
  let consumer ← talk .subscription
    (proxy.subscribe settings.applicationId settings.clientId settings.inputTopic)
  return ⟨consumer, proxy.topic settings.outputTopic (some schemaId), tally⟩

/-- The pipeline, on a machine whose network it talks to. -/
def pump (settings : Settings) (ready : Ready) (machine : Machine) :
    Option Pipeline.Outcome × Machine :=
  let session : Session := ⟨machine.network, ready.consumer, ready.topic, none⟩
  let config := Pipeline.run Session.world Pipeline.ample settings.pipeline ready.tally none session
  (config.outcome,
    { machine with network := config.world.network, log := machine.log ++ config.log.map (·.2) })

def summary (report : Pipeline.Report) : LogLine :=
  .info ("stopped (" ++ report.stopReason.text ++ "): " ++ toString report.recordsRead ++
    " records read, " ++ toString report.recordsSkipped ++ " skipped, " ++
    toString report.tokensCounted ++ " tokens, " ++ toString report.updatesEmitted ++
    " updates published, " ++ toString report.tally.size ++ " distinct words")

def save (settings : Settings) (time : String) (report : Pipeline.Report) : Work Path :=
  onDisk (Snapshot.save settings.stateDir settings.applicationId time report.tally)

/-- What follows the pipeline. After a failure the counts are saved too, and that this did not
succeed is only logged. -/
def conclude (settings : Settings) (time : String) : Option Pipeline.Outcome → Work Unit
  | some (.completed report) => do
    say (summary report)
    let _ ← save settings time report
  | some (.failed reason report) => do
    say (summary report)
    try
      let _ ← save settings time report
    catch failure =>
      say (.error failure.message)
    throw (.pipeline reason)
  | some .panicked | none => throw .panicked

/-- The service as a whole; the snapshot at its end is one of that time. -/
def run (settings : Settings) (time : String) : Work Unit := do
  let ready ← prepare settings
  conclude settings time (← modifyGet (pump settings ready))

end Service

end WordTally
