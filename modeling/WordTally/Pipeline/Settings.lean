import WordTally.Retry

set_option autoImplicit false

namespace WordTally

structure PipelineSettings where
  shards : Nat
  /-- How many milliseconds an update may wait in a shard before it is published. -/
  commitMillis : Nat
  /-- A shard publishes early once so many updates are pending. -/
  maxBatch : Nat
  /-- How many words may wait for one shard. -/
  capacity : Nat
  sinkRetry : RetryPolicy
  sourceRetry : RetryPolicy
  deriving DecidableEq, Repr

namespace PipelineSettings

def standard : PipelineSettings := ⟨1, 10000, 500, 1024, .standard, .standard⟩

/-- There is always a shard, a millisecond, an update to publish and room for a word. -/
def clamped (settings : PipelineSettings) : PipelineSettings :=
  { settings with
    shards := max settings.shards 1
    commitMillis := max settings.commitMillis 1
    maxBatch := max settings.maxBatch 1
    capacity := max settings.capacity 1 }

end PipelineSettings

end WordTally
