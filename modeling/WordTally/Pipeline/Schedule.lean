import WordTally.Pipeline.Config

/-
One order of steps, by turns. The supervisor, the dispatcher and the workers take turns; in its turn
a task takes all the steps it can. When nobody could take a step in a whole round, the clock
advances.
-/

set_option autoImplicit false

namespace WordTally.Pipeline

inductive Turn where
  | supervisor
  | dispatcher
  | worker (shard : Nat)
  deriving DecidableEq, Repr

structure Schedule (σ : Type) where
  config : Config σ
  turn : Turn
  /-- Whether a step was taken in this round. -/
  moved : Bool

namespace Schedule

variable {σ : Type}

def start (config : Config σ) : Schedule σ := ⟨config, .supervisor, false⟩

/-- The first of some actions that can be taken. -/
def firstOf (world : World σ) (config : Config σ) (actions : List Config.Action) :
    Option (Config σ) :=
  actions.findSome? (config.act world)

/-- The dispatcher gives way while it awaits an answer of the source and before it closes it. -/
def givesWay : Dispatcher → Bool
  | .waiting _ _ | .closing => true
  | _ => false

/-- The next step or the next turn; nothing when the run has returned or waits for nothing. -/
def next (world : World σ) (schedule : Schedule σ) : Option (Schedule σ) :=
  let config := schedule.config
  if config.outcome.isSome then none
  else match schedule.turn with
    | .supervisor =>
      match firstOf world config [.request, .heed, .supervise] with
      | some config => some ⟨config, .supervisor, true⟩
      | none => some { schedule with turn := .dispatcher }
    | .dispatcher =>
      match config.act world .dispatch with
      | some config =>
        some ⟨config, if givesWay config.dispatcher then .worker 0 else .dispatcher, true⟩
      | none => some { schedule with turn := .worker 0 }
    | .worker shard =>
      if shard < config.workers.length then
        match firstOf world config [.wake shard, .take shard, .tick shard] with
        | some config => some ⟨config, .worker shard, true⟩
        | none => some { schedule with turn := .worker (shard + 1) }
      else if schedule.moved then some ⟨config, .supervisor, false⟩
      else (config.advance? world).map start

/-- So many steps, or fewer when the run has returned. -/
def steps (world : World σ) : Nat → Schedule σ → Schedule σ
  | 0, schedule => schedule
  | n + 1, schedule =>
    match schedule.next world with
    | some later => later.steps world n
    | none => schedule

end Schedule

/-- More steps than any run takes whose surroundings come to an end. -/
def ample : Nat := 1000000000000000

/-- Runs a pipeline for at most so many steps of its schedule. -/
def run {σ : Type} (world : World σ) (patience : Nat) (settings : PipelineSettings) (tally : Tally)
    (stopAt : Option Nat) (surroundings : σ) : Config σ :=
  ((Schedule.start (Config.start settings tally stopAt surroundings)).steps world patience).config

end WordTally.Pipeline
