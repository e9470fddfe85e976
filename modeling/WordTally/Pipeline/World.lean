import WordTally.Feed
import WordTally.Log
import WordTally.Sink
import WordTally.Source

set_option autoImplicit false

namespace WordTally

/-- An answer of the world, the lines it logs meanwhile, and the world afterwards. -/
structure Reply (σ α : Type) where
  value : α
  log : List LogLine
  world : σ

/-- What becomes of a publish call: the error, if it fails, and how many milliseconds it takes. -/
structure Delivery where
  millis : Nat
  error : Option SinkError
  deriving DecidableEq, Repr, Inhabited

structure World (σ : Type) where
  /-- A new poll of the source. -/
  poll : σ → Reply σ Poll
  /-- The poll goes on after it waited. -/
  resume : σ → Reply σ Poll
  close : σ → Reply σ (Option SourceError)
  /-- One publish call of a shard. -/
  publish : Nat → List Update → σ → Reply σ Delivery

inductive SourceStep where
  | answer (poll : Poll)
  /-- Sleep, and go on with the next entry within the same poll. -/
  | sleep (millis : Nat)

/-- Surroundings whose answers are written down beforehand: for the source, and for each shard's
publish calls. A source without entries is at its end; a sink without entries accepts. -/
structure Script where
  source : List SourceStep
  closeError : Option SourceError
  sinks : List (List Delivery)
  polls : Nat
  closes : Nat

namespace Script

def proceed (script : Script) : Reply Script Poll :=
  match script.source with
  | [] => ⟨.endOfStream, [], script⟩
  | .answer poll :: rest => ⟨poll, [], { script with source := rest }⟩
  | .sleep millis :: rest => ⟨.wait millis, [], { script with source := rest }⟩

def poll (script : Script) : Reply Script Poll :=
  { script with polls := script.polls + 1 }.proceed

def close (script : Script) : Reply Script (Option SourceError) :=
  ⟨script.closeError, [], { script with closes := script.closes + 1 }⟩

def publish (shard : Nat) (_ : List Update) (script : Script) : Reply Script Delivery :=
  match script.sinks[shard]? with
  | some (delivery :: rest) => ⟨delivery, [], { script with sinks := script.sinks.set shard rest }⟩
  | _ => ⟨⟨0, none⟩, [], script⟩

def world : World Script := ⟨poll, proceed, close, publish⟩

end Script

structure FeedScript where
  feed : Feed
  sinks : Script

namespace FeedScript

/-- A feed that is empty while feeders are left is asked again later. -/
def poll (state : FeedScript) : Reply FeedScript Poll :=
  match state.feed.poll with
  | (.batch records, feed) => ⟨.batch records, [], { state with feed := feed }⟩
  | (.pending, feed) => ⟨.wait 1, [], { state with feed := feed }⟩
  | (.endOfStream, feed) => ⟨.endOfStream, [], { state with feed := feed }⟩

def close (state : FeedScript) : Reply FeedScript (Option SourceError) := ⟨none, [], state⟩

def publish (shard : Nat) (updates : List Update) (state : FeedScript) :
    Reply FeedScript Delivery :=
  let reply := Script.publish shard updates state.sinks
  ⟨reply.value, reply.log, { state with sinks := reply.world }⟩

def world : World FeedScript := ⟨poll, poll, close, publish⟩

end FeedScript

end WordTally
