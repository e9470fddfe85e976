import WordTally.Pipeline.Config
import Mathlib.Tactic.Common

/-
What one step of a run can do. `Config.Change` lists every case once, with all that is checked
before it, so that no later proof opens the functions behind a step.
-/

set_option autoImplicit false

namespace WordTally

def Poll.interrupts : Poll → Bool
  | .interrupted => true
  | _ => false

def Effect.failure? : Effect → Option StopReason
  | .reportFailure reason => some reason
  | _ => none

namespace Pipeline

/-- How many polls in a row have failed, when the source is being polled. -/
def Dispatcher.asking? : Dispatcher → Option Nat
  | .polling attempt | .waiting _ attempt => some attempt
  | _ => none

/-- The dispatcher is at a point where it notices that intake is halted. -/
def Dispatcher.heeds : Dispatcher → Bool
  | .polling _ | .waiting _ _ | .stranded | .pausing _ _ | .reading (_ :: _) => true
  | _ => false

namespace Worker

/-- A worker whose publish call was just made. -/
def calling (worker : Worker) (now : Nat) (delivery : Delivery) (attempt : Nat)
    (cause : FlushCause) : Worker :=
  { worker with
    activity := .publishing (now + delivery.millis) attempt delivery.error cause }

def call (worker : Worker) (now shard : Nat) (delivery : Delivery) : Publication :=
  ⟨now, shard, delivery.error.isNone, worker.pending⟩

def committed (worker : Worker) (cause : FlushCause) : Worker :=
  { worker with emitted := worker.emitted + worker.pending.length, pending := [] }.rest cause

def ticked (worker : Worker) (now interval : Nat) : Worker :=
  { worker with tickDue := nextTick worker.tickDue now interval }

end Worker

/-- The last line of a worker that fails: how many updates it leaves undelivered. -/
def givingUp (shard undelivered : Nat) (error : SinkError) : LogLine :=
  .error ("shard " ++ toString shard ++ " giving up with " ++ toString undelivered ++
    " undelivered updates: " ++ error.message)

def surrender (shard : Nat) (error : SinkError) : Message :=
  .sinkFailed ("shard " ++ toString shard ++ ": " ++ error.message)

/-- What one step moves to and from a shard: words put into its queue, words counted, publish calls
made, messages sent and lines logged. -/
structure Traffic where
  sent : List String
  counted : List String
  calls : List Publication
  mail : List Message
  lines : List LogLine

namespace Traffic

def quiet : Traffic := ⟨[], [], [], [], []⟩

def calling (counted : List String) (call : Publication) (lines : List LogLine) : Traffic :=
  ⟨[], counted, [call], [], lines⟩

end Traffic

variable {σ : Type}

/-- What may happen to the worker of a shard in one step of a run, and what moves meanwhile. -/
inductive ShardStep (config : Config σ) (shard : Nat) (worker : Worker) :
    Worker → Traffic → Prop where
  | stay : ShardStep config shard worker worker .quiet
  | sent (word : String)
      (route : shardOf word config.workers.length = shard)
      (open_ : config.dispatcher.isGone = false)
      (alive : worker.isGone = false)
      (room : worker.queue.length < config.settings.capacity) :
      ShardStep config shard worker { worker with queue := worker.queue ++ [word] }
        ⟨[word], [], [], [], []⟩
  | counted (word : String) (queue : List String)
      (idle : worker.activity = .receiving)
      (front : worker.queue = word :: queue)
      (small : worker.pending.length + 1 < config.settings.maxBatch) :
      ShardStep config shard worker ({ worker with queue := queue }.apply word)
        ⟨[], [word], [], [], []⟩
  | filled (word : String) (queue : List String) (delivery : Delivery) (lines : List LogLine)
      (idle : worker.activity = .receiving)
      (front : worker.queue = word :: queue)
      (full : config.settings.maxBatch ≤ worker.pending.length + 1) :
      ShardStep config shard worker
        (({ worker with queue := queue }.apply word).calling config.now delivery 0 .full)
        (.calling [word]
          (({ worker with queue := queue }.apply word).call config.now shard delivery) lines)
  | left
      (idle : worker.activity = .receiving)
      (empty : worker.queue = [])
      (past : config.dispatcher.isGone = true)
      (nothing : worker.pending = []) :
      ShardStep config shard worker (worker.rest .drain) .quiet
  | drained (delivery : Delivery) (lines : List LogLine)
      (idle : worker.activity = .receiving)
      (empty : worker.queue = [])
      (past : config.dispatcher.isGone = true)
      (something : worker.pending ≠ []) :
      ShardStep config shard worker (worker.calling config.now delivery 0 .drain)
        (.calling [] (worker.call config.now shard delivery) lines)
  | ticked
      (idle : worker.activity = .receiving)
      (due : worker.tickDue ≤ config.now)
      (nothing : worker.pending = []) :
      ShardStep config shard worker
        ((worker.ticked config.now config.settings.commitMillis).rest .tick) .quiet
  | flushed (delivery : Delivery) (lines : List LogLine)
      (idle : worker.activity = .receiving)
      (due : worker.tickDue ≤ config.now)
      (something : worker.pending ≠ []) :
      ShardStep config shard worker
        ((worker.ticked config.now config.settings.commitMillis).calling config.now delivery 0
          .tick)
        (.calling [] (worker.call config.now shard delivery) lines)
  | committed (due attempt : Nat) (cause : FlushCause) (lines : List LogLine)
      (calling : worker.activity = .publishing due attempt none cause)
      (elapsed : due ≤ config.now) :
      ShardStep config shard worker (worker.committed cause) ⟨[], [], [], [], lines⟩
  | paused (due attempt : Nat) (error : SinkError) (cause : FlushCause) (lines : List LogLine)
      (calling : worker.activity = .publishing due attempt (some error) cause)
      (elapsed : due ≤ config.now)
      (retried : (error.isRetryable && config.settings.sinkRetry.allows attempt) = true) :
      ShardStep config shard worker
        { worker with
          activity := .pausing
            (config.now + (config.settings.sinkRetry.backoff attempt).millis) (attempt + 1) cause }
        ⟨[], [], [], [], lines⟩
  | failed (due attempt : Nat) (error : SinkError) (cause : FlushCause)
      (calling : worker.activity = .publishing due attempt (some error) cause)
      (elapsed : due ≤ config.now)
      (final : (error.isRetryable && config.settings.sinkRetry.allows attempt) = false) :
      ShardStep config shard worker { worker with activity := .failed }
        ⟨[], [], [], [surrender shard error], [givingUp shard worker.pending.length error]⟩
  | again (due attempt : Nat) (cause : FlushCause) (delivery : Delivery) (lines : List LogLine)
      (resting : worker.activity = .pausing due attempt cause)
      (elapsed : due ≤ config.now) :
      ShardStep config shard worker (worker.calling config.now delivery attempt cause)
        (.calling [] (worker.call config.now shard delivery) lines)

/-- What the dispatcher may do in one step that puts no word into a queue: the answer of the source
if it was asked, and what the dispatcher does next, has counted and tells the supervisor. -/
inductive IntakeStep (config : Config σ) :
    Option Poll → Dispatcher → Counters → List Message → Prop where
  | halted
      (halt : config.halted = true)
      (heeds : config.dispatcher.heeds = true) :
      IntakeStep config none .closing config.counters []
  | batch (attempt : Nat) (records : List RawRecord)
      (asking : config.dispatcher.asking? = some attempt)
      (open_ : config.halted = false) :
      IntakeStep config (some (.batch records)) (.reading records) config.counters []
  | ended (attempt : Nat)
      (asking : config.dispatcher.asking? = some attempt)
      (open_ : config.halted = false) :
      IntakeStep config (some .endOfStream) .closing config.counters [.sourceExhausted]
  | retried (attempt : Nat) (error : SourceError)
      (asking : config.dispatcher.asking? = some attempt)
      (open_ : config.halted = false)
      (again : (error.isTransient && config.settings.sourceRetry.allows attempt) = true) :
      IntakeStep config (some (.failed error))
        (.pausing (config.now + (config.settings.sourceRetry.backoff attempt).millis)
          (attempt + 1)) config.counters []
  | failed (attempt : Nat) (error : SourceError)
      (asking : config.dispatcher.asking? = some attempt)
      (open_ : config.halted = false)
      (final : (error.isTransient && config.settings.sourceRetry.allows attempt) = false) :
      IntakeStep config (some (.failed error)) .closing config.counters
        [.sourceFailed error.message]
  | awaited (attempt millis : Nat)
      (asking : config.dispatcher.asking? = some attempt)
      (open_ : config.halted = false) :
      IntakeStep config (some (.wait millis)) (.waiting (config.now + millis) attempt)
        config.counters []
  | stranded (attempt : Nat)
      (asking : config.dispatcher.asking? = some attempt)
      (open_ : config.halted = false) :
      IntakeStep config (some .interrupted) .stranded config.counters []
  | died (attempt : Nat)
      (asking : config.dispatcher.asking? = some attempt)
      (open_ : config.halted = false) :
      IntakeStep config (some .panicked) .panicked config.counters []
  | resumed (due attempt : Nat)
      (resting : config.dispatcher = .pausing due attempt)
      (open_ : config.halted = false)
      (elapsed : due ≤ config.now) :
      IntakeStep config none (.polling attempt) config.counters []
  | emptied
      (reading : config.dispatcher = .reading []) :
      IntakeStep config none (.polling 0) config.counters []
  | read (raw : RawRecord) (rest : List RawRecord) (record : Record)
      (reading : config.dispatcher = .reading (raw :: rest))
      (open_ : config.halted = false)
      (decoded : raw.decode = .ok record) :
      IntakeStep config none (.handing (Text.words record.text) rest)
        { config.counters with recordsRead := config.counters.recordsRead + 1 } []
  | skipped (raw : RawRecord) (rest : List RawRecord) (mismatch : SchemaMismatch)
      (reading : config.dispatcher = .reading (raw :: rest))
      (open_ : config.halted = false)
      (refused : raw.decode = .error mismatch) :
      IntakeStep config none (.reading rest)
        { config.counters with
          recordsRead := config.counters.recordsRead + 1
          recordsSkipped := config.counters.recordsSkipped + 1 } []
  | handed (rest : List RawRecord)
      (handing : config.dispatcher = .handing [] rest) :
      IntakeStep config none (.reading rest) config.counters []
  | refused (word : String) (words : List String) (rest : List RawRecord)
      (handing : config.dispatcher = .handing (word :: words) rest)
      (gone : ∀ worker, config.workers[shardOf word config.workers.length]? = some worker →
        worker.isGone = true) :
      IntakeStep config none .closing config.counters []
  | closed
      (closing : config.dispatcher = .closing) :
      IntakeStep config none .finished config.counters []

namespace Config

/-- What the source answers in a step, when it is asked. -/
def answer? (world : World σ) (config : Config σ) : Action → Option Poll
  | .dispatch =>
    if config.halted then none
    else match config.dispatcher with
      | .polling _ => some (world.poll config.world).value
      | .waiting _ _ => some (world.resume config.world).value
      | _ => none
  | _ => none

/-- The word that a step puts into a queue, with the shard of that queue. -/
def handed? (config : Config σ) : Action → Option (Nat × String)
  | .dispatch =>
    match config.dispatcher with
    | .handing (word :: _) _ =>
      let shard := shardOf word config.workers.length
      match config.workers[shard]? with
      | some worker => if worker.isGone then none else some (shard, word)
      | none => none
    | _ => none
  | _ => none

/-- The word that a step takes out of a queue and counts, with the shard of that queue. -/
def counted? (config : Config σ) : Action → Option (Nat × String)
  | .take shard =>
    match config.workers[shard]? with
    | some worker => worker.queue.head?.map fun word => (shard, word)
    | none => none
  | _ => none

def Action.worker? : Action → Option Nat
  | .take shard | .tick shard | .wake shard => some shard
  | _ => none

def worked (config : Config σ) (shard : Nat) (worker : Worker) (traffic : Traffic) (next : σ) :
    Config σ :=
  { config with
    world := next
    log := config.log ++ traffic.lines.map fun line => (config.now, line)
    workers := config.workers.set shard worker
    mail := config.mail ++ traffic.mail
    publications := config.publications ++ traffic.calls }

def moved (config : Config σ) (answer : Option Poll) (dispatcher : Dispatcher)
    (counters : Counters) (mail : List Message) (next : σ) (lines : List LogLine) : Config σ :=
  { config with
    world := next
    log := config.log ++ lines.map fun line => (config.now, line)
    dispatcher := dispatcher
    counters := counters
    mail := config.mail ++ mail
    stopRequested := config.stopRequested || answer.any Poll.interrupts }

def delivered (config : Config σ) (message : Message) (lines : List (Nat × LogLine)) : Config σ :=
  { config with
    lifecycle := (config.lifecycle.step message).1
    halted := config.halted || (config.lifecycle.step message).2.contains .haltIntake
    failure := config.failure.or ((config.lifecycle.step message).2.findSome? Effect.failure?)
    phases := config.phases ++ [(config.lifecycle.step message).1.phase]
    log := config.log ++ lines }

/-- How a run ends in which no task died. -/
def verdict (config : Config σ) : Outcome :=
  match config.failure with
  | some reason => .failed reason config.report
  | none => .completed config.report

/-- What one action does to a run, case by case. -/
inductive Change (world : World σ) (before : Config σ) : Action → Config σ → Prop where
  | request (time : Nat)
      (planned : before.stopAt = some time)
      (due : time ≤ before.now)
      (unrequested : before.stopRequested = false) :
      Change world before .request { before with stopRequested := true }
  | heed (lines : List (Nat × LogLine))
      (requested : before.stopRequested = true)
      (unseen : before.stopSeen = false) :
      Change world before .heed
        ({ before with stopSeen := true }.delivered .stopRequested lines)
  | hear (message : Message) (mail : List Message) (lines : List (Nat × LogLine))
      (first : before.mail = message :: mail) :
      Change world before .supervise ({ before with mail := mail }.delivered message lines)
  | died
      (silent : before.mail = [])
      (gone : before.allGone = true)
      (lost : before.hasDied = true) :
      Change world before .supervise { before with outcome := some .panicked }
  | returned (lines : List (Nat × LogLine))
      (silent : before.mail = [])
      (gone : before.allGone = true)
      (alive : before.hasDied = false) :
      Change world before .supervise
        { before.delivered .drained lines with
          outcome := some (before.delivered .drained lines).verdict }
  | intake {answer : Option Poll} {dispatcher : Dispatcher} {counters : Counters}
      {mail : List Message}
      (step : IntakeStep before answer dispatcher counters mail)
      (asked : before.answer? world .dispatch = answer)
      (unhanded : before.handed? .dispatch = none)
      (next : σ) (lines : List LogLine) :
      Change world before .dispatch (before.moved answer dispatcher counters mail next lines)
  | hand (word : String) (words : List String) (rest : List RawRecord) (worker : Worker)
      (handing : before.dispatcher = .handing (word :: words) rest)
      (found : before.workers[shardOf word before.workers.length]? = some worker)
      (alive : worker.isGone = false)
      (room : worker.queue.length < before.settings.capacity) :
      Change world before .dispatch
        { before with
          workers := before.workers.set (shardOf word before.workers.length)
            { worker with queue := worker.queue ++ [word] }
          counters :=
            { before.counters with tokensCounted := before.counters.tokensCounted + 1 }
          dispatcher := .handing words rest }
  | work {action : Action} {shard : Nat} {worker after : Worker} {traffic : Traffic}
      (mine : action.worker? = some shard)
      (found : before.workers[shard]? = some worker)
      (step : ShardStep before shard worker after traffic)
      (unsent : traffic.sent = [])
      (counted : (before.counted? action).toList = traffic.counted.map (Prod.mk shard))
      (next : σ) :
      Change world before action (before.worked shard after traffic next)

end Config

end Pipeline

end WordTally
