import WordTally.Record

set_option autoImplicit false

namespace WordTally

structure Feed where
  queue : List RawRecord
  /-- How many feeders are left. -/
  feeders : Nat
  /-- Whether the source is still there to take records. -/
  attached : Bool

namespace Feed

inductive Taken where
  | batch (records : List RawRecord)
  /-- Nothing is queued, and a feeder may still bring something. -/
  | pending
  | endOfStream

def new : Feed := ⟨[], 1, true⟩

/-- Queues a record. Tells whether the source is still there; without it the record is lost. -/
def send (feed : Feed) (record : RawRecord) : Bool × Feed :=
  if feed.attached then (true, { feed with queue := feed.queue ++ [record] }) else (false, feed)

def sendLine (feed : Feed) (partition offset : Nat) (line : String) : Bool × Feed :=
  feed.send (.ofLine partition offset line)

/-- One more feeder, as long as there is one to take after. -/
def cloneFeeder (feed : Feed) : Feed :=
  if feed.feeders = 0 then feed else { feed with feeders := feed.feeders + 1 }

def dropFeeder (feed : Feed) : Feed := { feed with feeders := feed.feeders - 1 }

/-- The source goes away, and with it everything queued. -/
def dropSource (feed : Feed) : Feed := { feed with queue := [], attached := false }

/-- Adds to a batch what is queued, one record after the other, and leaves the queue. -/
def fill (batch : List RawRecord) : List RawRecord → List RawRecord × List RawRecord
  | [] => (batch, [])
  | record :: queue => fill (batch ++ [record]) queue

/-- Awaits a first record and goes on for as long as there are more. -/
def poll (feed : Feed) : Taken × Feed :=
  match feed.queue with
  | [] => (if feed.feeders = 0 then .endOfStream else .pending, feed)
  | first :: queue =>
    let (batch, rest) := fill [first] queue
    (.batch batch, { feed with queue := rest })

end Feed

end WordTally
