import WordTally.Pipeline.World
import WordTally.Proxy.Client

set_option autoImplicit false

namespace WordTally.Service

open Http

structure Session where
  network : Network
  consumer : Proxy.Consumer
  topic : Proxy.Topic
  /-- The answer to a poll that was asked for and is still awaited. -/
  awaited : Option Poll

namespace Session

def converse {α : Type} (talk : Talk α) (network : Network) : α × List LogLine × Network :=
  let (value, after) := talk.run { network with log := [] }
  (value, after.log, { after with log := network.log })

/-- How long the answer to a poll is awaited. After an answer without records there is a pause. -/
def delay (consumer : Proxy.Consumer) : Poll → Nat
  | .batch [] => consumer.idleMillis
  | _ => 0

/-- The request is sent at once, and its answer is awaited, if there will be one. -/
def poll (session : Session) : Reply Session Poll :=
  let (answer, lines, network) := converse session.consumer.poll session.network
  match answer with
  | .interrupted => ⟨.interrupted, lines, { session with network := network }⟩
  | answer =>
    ⟨.wait (delay session.consumer answer), lines,
      { session with network := network, awaited := some answer }⟩

def resume (session : Session) : Reply Session Poll :=
  ⟨session.awaited.getD .endOfStream, [], { session with awaited := none }⟩

def close (session : Session) : Reply Session (Option SourceError) :=
  let ((error, consumer), lines, network) := converse session.consumer.close session.network
  ⟨error, lines, { session with network := network, consumer := consumer }⟩

def publish (_ : Nat) (updates : List Update) (session : Session) : Reply Session Delivery :=
  let (error, lines, network) := converse (session.topic.publish updates) session.network
  ⟨⟨0, error⟩, lines, { session with network := network }⟩

def world : World Session := ⟨poll, resume, close, publish⟩

end Session

end WordTally.Service
