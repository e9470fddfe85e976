import WordTally.Digest.Sha256
import WordTally.Tally

set_option autoImplicit false

namespace WordTally

/-- The first eight octets of the word's digest as a number. -/
def wordHash (word : String) : Nat :=
  Digest.bigEndian ((Digest.sha256 word.toUTF8.toList).take 8)

/-- The shard of a word among `shards`; no shards count as one. -/
def shardOf (word : String) (shards : Nat) : Nat :=
  if shards ≤ 1 then 0 else wordHash word % shards

theorem shardOf_lt (word : String) (shards : Nat) : shardOf word shards < max shards 1 := by
  unfold shardOf
  split
  · omega
  · have := Nat.mod_lt (wordHash word) (show 0 < shards by omega)
    omega

/-- One tally per shard, each with the words routed there. -/
def Tally.split (tally : Tally) (shards : Nat) : List Tally :=
  (List.range (max shards 1)).map fun shard =>
    Tally.ofList (tally.entries.filter fun entry => shardOf entry.1 shards == shard)

@[simp]
theorem Tally.length_split (tally : Tally) (shards : Nat) :
    (tally.split shards).length = max shards 1 := by
  simp [split]

end WordTally
