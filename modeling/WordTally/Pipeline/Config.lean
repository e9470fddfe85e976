import WordTally.Lifecycle
import WordTally.Pipeline.Settings
import WordTally.Pipeline.World
import WordTally.Routing
import WordTally.Text.Words

/-
The configuration of a run: one dispatcher, one worker for each shard, the supervisor, and what
passes between them.

The dispatcher polls the source and hands the words of each record to the queues of their shards.
A worker counts the words of its queue, keeps the updates, and publishes them when there are enough
of them, when its commit tick is due, and at the end. The supervisor drives the lifecycle with the
messages of the others and halts intake.
-/

set_option autoImplicit false

namespace WordTally.Pipeline

inductive Dispatcher where
  /-- About to poll, after so many failed polls in a row. -/
  | polling (attempt : Nat)
  /-- In a poll whose answer comes at a time. -/
  | waiting (due : Nat) (attempt : Nat)
  /-- In a poll that is never answered. -/
  | stranded
  /-- Pausing before the next poll. -/
  | pausing (due : Nat) (attempt : Nat)
  /-- Between two records of a batch. -/
  | reading (records : List RawRecord)
  /-- Handing over the words of a record. -/
  | handing (words : List String) (records : List RawRecord)
  | closing
  | finished
  | panicked
  deriving Inhabited

/-- The dispatcher gives no more words to anyone. -/
def Dispatcher.isGone : Dispatcher → Bool
  | .finished | .panicked => true
  | _ => false

inductive FlushCause where
  | full
  | tick
  | drain
  deriving DecidableEq, Repr

inductive Activity where
  | receiving
  /-- In a publish call that returns at a time, after so many retries. -/
  | publishing (due : Nat) (attempt : Nat) (error : Option SinkError) (cause : FlushCause)
  /-- Pausing before the publish call is made again. -/
  | pausing (due : Nat) (attempt : Nat) (cause : FlushCause)
  | finished
  | failed
  | panicked
  deriving DecidableEq, Repr

structure Worker where
  tally : Tally
  queue : List String
  pending : List Update
  /-- How many updates were accepted. -/
  emitted : Nat
  activity : Activity
  tickDue : Nat

namespace Worker

/-- A worker that takes no more words. -/
def isGone (worker : Worker) : Bool :=
  match worker.activity with
  | .finished | .failed | .panicked => true
  | _ => false

/-- Counts a word and keeps the update. -/
def apply (worker : Worker) (word : String) : Worker :=
  let (update, tally) := worker.tally.count word
  { worker with tally := tally, pending := worker.pending ++ [update] }

def rest (worker : Worker) (cause : FlushCause) : Worker :=
  { worker with activity := if cause = .drain then .finished else .receiving }

/-- The tick after one that is handled now. One handled up to five milliseconds late keeps the
schedule. -/
def nextTick (due now interval : Nat) : Nat :=
  if due + 5 < now then now + interval else due + interval

end Worker

structure Publication where
  time : Nat
  shard : Nat
  accepted : Bool
  updates : List Update
  deriving DecidableEq, Repr

structure Counters where
  recordsRead : Nat
  recordsSkipped : Nat
  tokensCounted : Nat
  deriving DecidableEq, Repr, Inhabited

/-- What a run has to tell at its end. -/
structure Report where
  recordsRead : Nat
  recordsSkipped : Nat
  tokensCounted : Nat
  updatesEmitted : Nat
  stopReason : StopReason
  tally : Tally
  deriving DecidableEq

inductive Outcome where
  | completed (report : Report)
  | failed (reason : StopReason) (report : Report)
  /-- The dispatcher or a worker died. -/
  | panicked
  deriving DecidableEq

def Outcome.message : Outcome → String
  | .completed _ => ""
  | .failed reason _ => "pipeline stopped after failure: " ++ reason.text
  | .panicked => "pipeline worker panicked"

structure Config (σ : Type) where
  settings : PipelineSettings
  world : σ
  /-- Milliseconds since the start. -/
  now : Nat
  /-- When the run will be asked to stop. -/
  stopAt : Option Nat
  stopRequested : Bool
  /-- Whether the supervisor has heard of the request. -/
  stopSeen : Bool
  dispatcher : Dispatcher
  counters : Counters
  /-- The worker of each shard. -/
  workers : List Worker
  /-- Whether intake is halted. -/
  halted : Bool
  /-- Messages to the supervisor, the oldest first. -/
  mail : List Message
  lifecycle : Lifecycle
  /-- The first failure the supervisor heard of. -/
  failure : Option StopReason
  /-- The phases an observer has seen, the oldest first. -/
  phases : List Phase
  publications : List Publication
  log : List (Nat × LogLine)
  outcome : Option Outcome

namespace Config

variable {σ : Type}

def say (config : Config σ) (line : LogLine) : Config σ :=
  { config with log := config.log ++ [(config.now, line)] }

def sayAll (config : Config σ) (lines : List LogLine) : Config σ :=
  { config with log := config.log ++ lines.map fun line => (config.now, line) }

def post (config : Config σ) (message : Message) : Config σ :=
  { config with mail := config.mail ++ [message] }

def setWorker (config : Config σ) (shard : Nat) (worker : Worker) : Config σ :=
  { config with workers := config.workers.set shard worker }

def perform (config : Config σ) : Effect → Config σ
  | .spawnWorkers => config
  | .haltIntake => { config with halted := true }
  | .reportFailure reason =>
    let config := config.say (.error ("pipeline failure: " ++ reason.text))
    { config with failure := config.failure.or (some reason) }
  | .releaseResources =>
    let reason := match config.lifecycle.stopReason with
      | some reason => "Some(" ++ reason.text ++ ")"
      | none => "None"
    config.say (.info ("pipeline stopped: " ++ reason))

/-- The supervisor takes a message: one step of the lifecycle with its effects. -/
def deliver (config : Config σ) (message : Message) : Config σ :=
  let (lifecycle, effects) := config.lifecycle.step message
  let config := effects.foldl perform { config with lifecycle := lifecycle }
  { config with phases := config.phases ++ [lifecycle.phase] }

/-- Nobody is left to send a message. -/
def allGone (config : Config σ) : Bool :=
  config.dispatcher.isGone && config.workers.all Worker.isGone

def report (config : Config σ) : Report :=
  { recordsRead := config.counters.recordsRead
    recordsSkipped := config.counters.recordsSkipped
    tokensCounted := config.counters.tokensCounted
    updatesEmitted := config.workers.foldl (fun total worker => total + worker.emitted) 0
    stopReason := config.lifecycle.stopReason.getD .requested
    tally := (config.workers.map Worker.tally).foldl Tally.merge Tally.empty }

/-- Whether the dispatcher or a worker died. -/
def hasDied (config : Config σ) : Bool :=
  match config.dispatcher with
  | .panicked => true
  | _ => config.workers.any fun worker => worker.activity = .panicked

/-- The end of a run. When a task died it tells nothing, and its lifecycle stays as it is. -/
def conclude (config : Config σ) : Config σ :=
  if config.hasDied then { config with outcome := some .panicked }
  else
    let config := config.deliver .drained
    let outcome := match config.failure with
      | some reason => Outcome.failed reason config.report
      | none => Outcome.completed config.report
    { config with outcome := some outcome }

/-- What the dispatcher makes of an answer of the source, after so many failed polls. -/
def received (config : Config σ) (attempt : Nat) : Poll → Config σ
  | .batch records => { config with dispatcher := .reading records }
  | .endOfStream =>
    let config := config.say (.info
      ("source exhausted after " ++ toString config.counters.recordsRead ++ " records"))
    { config.post .sourceExhausted with dispatcher := .closing }
  | .failed error =>
    let retry := config.settings.sourceRetry
    if error.isTransient && retry.allows attempt then
      let pause := retry.backoff attempt
      let config := config.say (.warn
        ("source poll failed (attempt " ++ toString (attempt + 1) ++ "/" ++ toString retry.tries ++
          "), retrying in " ++ pause.text ++ ": " ++ error.message))
      { config with dispatcher := .pausing (config.now + pause.millis) (attempt + 1) }
    else
      let config := config.say (.error ("source failed: " ++ error.message))
      { config.post (.sourceFailed error.message) with dispatcher := .closing }
  | .wait millis => { config with dispatcher := .waiting (config.now + millis) attempt }
  | .interrupted => { config with dispatcher := .stranded, stopRequested := true }
  | .panicked => { config with dispatcher := .panicked }

def receive (config : Config σ) (attempt : Nat) (reply : Reply σ Poll) : Config σ :=
  ({ config with world := reply.world }.sayAll reply.log).received attempt reply.value

/-- The next record of a batch: its words are to be handed over, or it is passed over. -/
def read (config : Config σ) (raw : RawRecord) (rest : List RawRecord) : Config σ :=
  let counters := { config.counters with recordsRead := config.counters.recordsRead + 1 }
  match raw.decode with
  | .ok record =>
    { config with counters := counters, dispatcher := .handing (Text.words record.text) rest }
  | .error mismatch =>
    let config := config.say (.warn ("skipping record: " ++ mismatch.message))
    { config with
      counters := { counters with recordsSkipped := counters.recordsSkipped + 1 }
      dispatcher := .reading rest }

/-- Hands a word to its shard, as soon as there is room. When the shard is gone, intake ends. -/
def hand? (config : Config σ) (word : String) (words : List String) (rest : List RawRecord) :
    Option (Config σ) :=
  let shard := shardOf word config.workers.length
  match config.workers[shard]? with
  | none => some { config with dispatcher := .closing }
  | some worker =>
    if worker.isGone then
      let config := config.say (.debug
        ("shard " ++ toString shard ++ " is gone; stopping intake"))
      some { config with dispatcher := .closing }
    else if worker.queue.length < config.settings.capacity then
      let config := config.setWorker shard { worker with queue := worker.queue ++ [word] }
      some { config with
        counters := { config.counters with tokensCounted := config.counters.tokensCounted + 1 }
        dispatcher := .handing words rest }
    else none

def close (world : World σ) (config : Config σ) : Config σ :=
  let reply := world.close config.world
  let config := { config with world := reply.world, dispatcher := .finished }.sayAll reply.log
  match reply.value with
  | some error => config.say (.warn ("failed to close source: " ++ error.message))
  | none => config

/-- A step of the dispatcher, if it can take one. Halted intake is noticed before a poll, while one
is awaited, during a pause, and between two records; a record once begun is completed. -/
def dispatch? (world : World σ) (config : Config σ) : Option (Config σ) :=
  let halt := { config with dispatcher := .closing }
  match config.dispatcher with
  | .polling attempt =>
    if config.halted then some halt
    else some (config.receive attempt (world.poll config.world))
  | .waiting due attempt =>
    if config.halted then some halt
    else if due ≤ config.now then some (config.receive attempt (world.resume config.world))
    else none
  | .stranded => if config.halted then some halt else none
  | .pausing due attempt =>
    if config.halted then some halt
    else if due ≤ config.now then some { config with dispatcher := .polling attempt }
    else none
  | .reading [] => some { config with dispatcher := .polling 0 }
  | .reading (raw :: rest) => if config.halted then some halt else some (config.read raw rest)
  | .handing [] rest => some { config with dispatcher := .reading rest }
  | .handing (word :: words) rest => config.hand? word words rest
  | .closing => some (close world config)
  | .finished | .panicked => none

/-- A publish call with everything pending. -/
def publish (world : World σ) (config : Config σ) (shard : Nat) (worker : Worker) (attempt : Nat)
    (cause : FlushCause) : Config σ :=
  let reply := world.publish shard worker.pending config.world
  let config := { config with world := reply.world }.sayAll reply.log
  let config := config.setWorker shard
    { worker with
      activity := .publishing (config.now + reply.value.millis) attempt reply.value.error cause }
  { config with
    publications := config.publications ++
      [⟨config.now, shard, reply.value.error.isNone, worker.pending⟩] }

/-- With nothing pending there is nothing to publish. -/
def flush (world : World σ) (config : Config σ) (shard : Nat) (worker : Worker)
    (cause : FlushCause) : Config σ :=
  if worker.pending.isEmpty then config.setWorker shard (worker.rest cause)
  else publish world config shard worker 0 cause

/-- The return of a publish call. Pending updates are kept until they are accepted. -/
def settle (config : Config σ) (shard : Nat) (worker : Worker) (attempt : Nat)
    (cause : FlushCause) : Option SinkError → Config σ
  | none =>
    let config := config.say (.debug
      ("shard " ++ toString shard ++ " committed " ++ toString worker.pending.length ++ " updates"))
    config.setWorker shard
      ({ worker with emitted := worker.emitted + worker.pending.length, pending := [] }.rest cause)
  | some error =>
    let retry := config.settings.sinkRetry
    if error.isRetryable && retry.allows attempt then
      let pause := retry.backoff attempt
      let config := config.say (.warn
        ("shard " ++ toString shard ++ " publish failed (attempt " ++ toString (attempt + 1) ++
          "/" ++ toString retry.tries ++ "), retrying in " ++ pause.text ++ ": " ++ error.message))
      config.setWorker shard
        { worker with activity := .pausing (config.now + pause.millis) (attempt + 1) cause }
    else
      let config := config.say (.error
        ("shard " ++ toString shard ++ " giving up with " ++ toString worker.pending.length ++
          " undelivered updates: " ++ error.message))
      (config.post (.sinkFailed ("shard " ++ toString shard ++ ": " ++ error.message))).setWorker
        shard { worker with activity := .failed }

def take? (world : World σ) (config : Config σ) (shard : Nat) : Option (Config σ) :=
  match config.workers[shard]? with
  | none => none
  | some worker =>
    match worker.activity, worker.queue with
    | .receiving, word :: queue =>
      let worker := { worker with queue := queue }.apply word
      if config.settings.maxBatch ≤ worker.pending.length then
        some (flush world config shard worker .full)
      else some (config.setWorker shard worker)
    | .receiving, [] =>
      if config.dispatcher.isGone then some (flush world config shard worker .drain) else none
    | _, _ => none

def tick? (world : World σ) (config : Config σ) (shard : Nat) : Option (Config σ) :=
  match config.workers[shard]? with
  | none => none
  | some worker =>
    match worker.activity with
    | .receiving =>
      if worker.tickDue ≤ config.now then
        let due := Worker.nextTick worker.tickDue config.now config.settings.commitMillis
        some (flush world config shard { worker with tickDue := due } .tick)
      else none
    | _ => none

/-- The publish call of a worker returns, or its pause is over. -/
def wake? (world : World σ) (config : Config σ) (shard : Nat) : Option (Config σ) :=
  match config.workers[shard]? with
  | none => none
  | some worker =>
    match worker.activity with
    | .publishing due attempt error cause =>
      if due ≤ config.now then some (config.settle shard worker attempt cause error) else none
    | .pausing due attempt cause =>
      if due ≤ config.now then some (publish world config shard worker attempt cause) else none
    | _ => none

def heed? (config : Config σ) : Option (Config σ) :=
  if config.stopRequested && !config.stopSeen then
    let config := { config with stopSeen := true }.say
      (.info "stop requested; finishing in-flight record")
    some (config.deliver .stopRequested)
  else none

/-- The supervisor takes a message, or sees that there will be none. -/
def supervise? (config : Config σ) : Option (Config σ) :=
  match config.mail with
  | message :: mail => some ({ config with mail := mail }.deliver message)
  | [] => if config.allGone then some config.conclude else none

def request? (config : Config σ) : Option (Config σ) :=
  match config.stopAt with
  | some time =>
    if time ≤ config.now && !config.stopRequested then
      some { config with stopRequested := true }
    else none
  | none => none

/-- A worker dies, at any moment and for whatever reason, be it in a publish call. The words in its
queue and the updates it keeps are lost, and it tells nobody. -/
def die? (config : Config σ) (shard : Nat) : Option (Config σ) :=
  match config.workers[shard]? with
  | none => none
  | some worker =>
    if config.outcome.isSome || worker.isGone then none
    else some (config.setWorker shard { worker with activity := .panicked })

/-- One step of one task that lives. -/
inductive Action where
  | request
  | heed
  | supervise
  | dispatch
  | take (shard : Nat)
  | tick (shard : Nat)
  | wake (shard : Nat)
  deriving DecidableEq, Repr

/-- The configuration after an action, if it can be taken. A run that has returned takes none. -/
def act (world : World σ) (config : Config σ) (action : Action) : Option (Config σ) :=
  if config.outcome.isSome then none
  else match action with
    | .request => config.request?
    | .heed => config.heed?
    | .supervise => config.supervise?
    | .dispatch => config.dispatch? world
    | .take shard => config.take? world shard
    | .tick shard => config.tick? world shard
    | .wake shard => config.wake? world shard

def actions (config : Config σ) : List Action :=
  [.request, .heed, .supervise, .dispatch] ++
    (List.range config.workers.length).flatMap fun shard =>
      [.wake shard, .take shard, .tick shard]

def isQuiet (world : World σ) (config : Config σ) : Bool :=
  config.actions.all fun action => (config.act world action).isNone

def timers (config : Config σ) : List Nat :=
  let dispatcher := match config.dispatcher with
    | .waiting due _ | .pausing due _ => [due]
    | _ => []
  let workers := config.workers.flatMap fun worker =>
    match worker.activity with
    | .receiving => [worker.tickDue]
    | .publishing due _ _ _ | .pausing due _ _ => [due]
    | .finished | .failed | .panicked => []
  let stop := if config.stopRequested then [] else config.stopAt.toList
  (dispatcher ++ workers ++ stop).filter (config.now < ·)

/-- When no task can take a step, the clock jumps to the next time that one waits for. -/
def advance? (world : World σ) (config : Config σ) : Option (Config σ) :=
  if config.outcome.isNone && config.isQuiet world then
    match config.timers with
    | [] => none
    | time :: times => some { config with now := times.foldl min time }
  else none

/-- Every order in which the tasks may take their steps, as long as no worker dies. -/
inductive Step (world : World σ) : Config σ → Config σ → Prop where
  | act {before after : Config σ} (action : Action)
      (taken : before.act world action = some after) : Step world before after
  | advance {before after : Config σ} (taken : before.advance? world = some after) :
      Step world before after

/-- A run before its first step: its phase is published, and every shard has its share of the
tally. -/
def start (settings : PipelineSettings) (tally : Tally) (stopAt : Option Nat) (world : σ) :
    Config σ :=
  let settings := settings.clamped
  let config : Config σ :=
    { settings := settings
      world := world
      now := 0
      stopAt := stopAt
      stopRequested := false
      stopSeen := false
      dispatcher := .polling 0
      counters := ⟨0, 0, 0⟩
      workers := (tally.split settings.shards).map fun share =>
        ⟨share, [], [], 0, .receiving, settings.commitMillis⟩
      halted := false
      mail := []
      lifecycle := .new
      failure := none
      phases := [Lifecycle.new.phase]
      publications := []
      log := []
      outcome := none }
  (config.deliver .start).say (.info
    ("pipeline running with " ++ toString settings.shards ++ " shard(s)"))

end Config

end WordTally.Pipeline
