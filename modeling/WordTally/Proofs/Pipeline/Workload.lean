import WordTally.Proofs.Pipeline.Progress
import WordTally.Proofs.Pipeline.SourceCalls
import Mathlib

/-
What is left to do in a run whose surroundings are written down. Each word, record and answer counts
for what it may still cause, and every step that is more than an idle tick does some of it. So a run
takes only so many of these steps, whatever their order.
-/

set_option autoImplicit false

namespace WordTally

theorem sum_map_set {α : Type} (size : α → Nat) {items : List α} {place : Nat} {former : α}
    (found : items[place]? = some former) (item : α) :
    ((items.set place item).map size).sum + size former = (items.map size).sum + size item := by
  induction items generalizing place with
  | nil => cases found
  | cons first rest ih =>
    cases place with
    | zero =>
      cases found
      simp only [List.set_cons_zero, List.map_cons, List.sum_cons]
      omega
    | succ place =>
      have inner := ih found
      simp only [List.set_cons_succ, List.map_cons, List.sum_cons]
      omega

/-- A record is to be read, and each of its words handed over, counted and published. -/
def RawRecord.load (raw : RawRecord) : Nat := 2 + 4 * raw.words.length

def RawRecord.loads (records : List RawRecord) : Nat := (records.map RawRecord.load).sum

theorem RawRecord.loads_cons (raw : RawRecord) (rest : List RawRecord) :
    RawRecord.loads (raw :: rest) = raw.load + RawRecord.loads rest := by
  simp only [RawRecord.loads, List.map_cons, List.sum_cons]

def Poll.load : Poll → Nat
  | .batch records => 2 + RawRecord.loads records
  | .endOfStream => 0
  | .failed _ | .wait _ | .interrupted | .panicked => 2

def SourceStep.load : SourceStep → Nat
  | .answer poll => poll.load
  | .sleep _ => 2

/-- A call that fails may be followed by another one. -/
def Delivery.load (delivery : Delivery) : Nat := if delivery.error.isSome then 3 else 0

namespace Script

def load (script : Script) : Nat :=
  (script.source.map SourceStep.load).sum + (script.sinks.map fun sink => 3 * sink.length).sum

theorem load_proceed (script : Script) :
    script.proceed.world.load + script.proceed.value.load = script.load := by
  unfold proceed
  cases source : script.source with
  | nil => rfl
  | cons entry rest =>
    cases entry <;> simp only [load, source, List.map_cons, List.sum_cons, SourceStep.load] <;>
      simp only [Poll.load] <;> omega

theorem load_poll (script : Script) :
    script.poll.world.load + script.poll.value.load = script.load :=
  load_proceed { script with polls := script.polls + 1 }

theorem load_publish (shard : Nat) (updates : List Update) (script : Script) :
    (publish shard updates script).world.load + (publish shard updates script).value.load ≤
      script.load := by
  unfold publish
  split
  · rename_i delivery rest found
    have taken := sum_map_set (fun sink : List Delivery => 3 * sink.length) found rest
    simp only [List.length_cons] at taken
    have small : delivery.load ≤ 3 := by
      unfold Delivery.load
      split <;> omega
    simp only [load]
    omega
  · exact Nat.le_refl _

end Script

namespace Pipeline

/-- What the dispatcher has to do. A pause weighs more than the poll after it, and a word that is to
be handed over more than the same word in a queue. -/
def Dispatcher.load : Dispatcher → Nat
  | .polling _ | .waiting _ _ => 3
  | .stranded => 2
  | .pausing _ _ => 4
  | .reading records => 4 + RawRecord.loads records
  | .handing words records => 5 + 4 * words.length + RawRecord.loads records
  | .closing => 1
  | .finished | .panicked => 0

namespace Activity

/-- What a worker has to do besides its queue, with so many updates pending. A call that will fail
weighs more than the pause after it, the pause more than a call that will not, and that call more
than a worker with nothing pending. -/
def load (pending : Nat) : Activity → Nat
  | .receiving => 2 + 2 * pending
  | .publishing _ _ none _ => 3
  | .publishing _ _ (some _) _ => 5
  | .pausing _ _ _ => 4
  | .finished | .failed | .panicked => 0

theorem load_publishing (pending due attempt : Nat) (delivery : Delivery) (cause : FlushCause) :
    (Activity.publishing due attempt delivery.error cause).load pending ≤ 3 + delivery.load := by
  unfold Delivery.load
  cases delivery.error with
  | none => exact Nat.le_refl 3
  | some error => exact Nat.le_of_ble_eq_true rfl

end Activity

def Worker.load (worker : Worker) : Nat :=
  3 * worker.queue.length + worker.activity.load worker.pending.length

namespace Config

/-- What a run may still do. -/
def load (config : Config Script) : Nat :=
  config.world.load + config.dispatcher.load + (config.workers.map Worker.load).sum +
    config.mail.length + (!config.stopRequested).toNat + (!config.stopSeen).toNat +
    config.outcome.isNone.toNat

end Config

theorem Dispatcher.load_of_asking {dispatcher : Dispatcher} {attempt : Nat}
    (asking : dispatcher.asking? = some attempt) : dispatcher.load = 3 := by
  cases dispatcher <;> first | rfl | cases asking

theorem Dispatcher.load_of_heeds {dispatcher : Dispatcher} (heeds : dispatcher.heeds = true) :
    2 ≤ dispatcher.load := by
  cases dispatcher with
  | polling | waiting | stranded | pausing => simp only [load]; omega
  | reading records => simp only [load]; omega
  | handing | closing | finished | panicked => cases heeds

theorem IntakeStep.load_lt {σ : Type} {config : Config σ} {answer : Option Poll}
    {dispatcher : Dispatcher} {counters : Counters} {mail : List Message}
    (step : IntakeStep config answer dispatcher counters mail) :
    dispatcher.load + mail.length < config.dispatcher.load + answer.elim 0 Poll.load := by
  cases step with
  | halted halt heeds =>
    have least := Dispatcher.load_of_heeds heeds
    change 1 + 0 < config.dispatcher.load + 0
    omega
  | batch attempt records asking =>
    rw [Dispatcher.load_of_asking asking]
    simp only [Dispatcher.load, List.length_nil, Option.elim_some, Poll.load]
    omega
  | ended attempt asking | failed attempt error asking =>
    rw [Dispatcher.load_of_asking asking]
    simp only [Dispatcher.load, List.length_singleton, Option.elim_some, Poll.load]
    omega
  | retried attempt error asking | awaited attempt millis asking =>
    rw [Dispatcher.load_of_asking asking]
    simp only [Dispatcher.load, List.length_nil, Option.elim_some, Poll.load]
    omega
  | stranded attempt asking | died attempt asking =>
    rw [Dispatcher.load_of_asking asking]
    simp only [Dispatcher.load, List.length_nil, Option.elim_some, Poll.load]
    omega
  | resumed due attempt resting =>
    rw [resting]
    simp only [Dispatcher.load, List.length_nil, Option.elim_none]
    omega
  | emptied reading =>
    rw [reading]
    simp only [Dispatcher.load, List.length_nil, Option.elim_none]
    omega
  | read raw rest record reading open_ decoded =>
    have words : raw.words = Text.words record.text := by simp only [RawRecord.words, decoded]
    rw [reading, ← words]
    simp only [Dispatcher.load, RawRecord.loads_cons, RawRecord.load, List.length_nil,
      Option.elim_none]
    omega
  | skipped raw rest mismatch reading =>
    rw [reading]
    simp only [Dispatcher.load, RawRecord.loads_cons, RawRecord.load, List.length_nil,
      Option.elim_none]
    omega
  | handed rest handing =>
    rw [handing]
    simp only [Dispatcher.load, List.length_nil, Option.elim_none]
    omega
  | refused word words rest handing =>
    rw [handing]
    simp only [Dispatcher.load, List.length_nil, Option.elim_none]
    omega
  | closed closing =>
    rw [closing]
    simp only [Dispatcher.load, List.length_nil, Option.elim_none]
    omega

namespace Config

variable {before after : Config Script} {action : Action} {shard : Nat} {worker : Worker}

/-- What the source answers was in its script. -/
theorem load_answered (config : Config Script) :
    (answered Script.world config.world (config.sourceCall? .dispatch)).load +
        (config.answer? Script.world .dispatch).elim 0 Poll.load = config.world.load := by
  unfold sourceCall? answer?
  by_cases halt : config.halted = true
  · simp only [halt, ↓reduceIte, Option.elim_none, Nat.add_zero]
    cases config.dispatcher <;> rfl
  · simp only [halt, Bool.false_eq_true, ↓reduceIte]
    cases config.dispatcher with
    | polling attempt => exact Script.load_poll config.world
    | waiting due attempt => exact Script.load_proceed config.world
    | stranded | pausing | reading | handing | closing | finished | panicked => rfl

theorem load_setWorker (config : Config Script) {former : Worker}
    (found : config.workers[shard]? = some former) (worker : Worker) :
    (config.setWorker shard worker).load + former.load = config.load + worker.load := by
  have sum := sum_map_set Worker.load found worker
  simp only [load, setWorker]
  omega

/-- A publish call costs at most three, since its failure was in the script. -/
theorem load_publish (config : Config Script) {former : Worker}
    (found : config.workers[shard]? = some former) (worker : Worker) (attempt : Nat)
    (cause : FlushCause) :
    (publish Script.world config shard worker attempt cause).load + former.load ≤
      config.load + 3 * worker.queue.length + 3 := by
  let reply := Script.publish shard worker.pending config.world
  let called := worker.calling config.now reply.value attempt cause
  have script : reply.world.load + reply.value.load ≤ config.world.load :=
    Script.load_publish shard worker.pending config.world
  have answered : ({ config with world := reply.world } : Config Script).load +
      config.world.load = config.load + reply.world.load := by
    simp only [load]
    omega
  have call : called.load ≤ 3 * worker.queue.length + (3 + reply.value.load) :=
    Nat.add_le_add_left (Activity.load_publishing _ _ _ _ _) _
  have set : (publish Script.world config shard worker attempt cause).load + former.load =
      ({ config with world := reply.world } : Config Script).load + called.load :=
    load_setWorker { config with world := reply.world } found called
  omega

theorem load_flush (config : Config Script) {former : Worker}
    (found : config.workers[shard]? = some former) (worker : Worker) (cause : FlushCause)
    (something : worker.pending ≠ []) :
    (flush Script.world config shard worker cause).load + former.load ≤
      config.load + 3 * worker.queue.length + 3 := by
  have published : flush Script.world config shard worker cause =
      publish Script.world config shard worker 0 cause := by
    simp [flush, something]
  rw [published]
  exact load_publish config found worker 0 cause

theorem flush_of_nil {σ : Type} {world : World σ} (config : Config σ)
    (nothing : worker.pending = []) (cause : FlushCause) :
    flush world config shard worker cause = config.setWorker shard (worker.rest cause) := by
  simp [flush, nothing]

theorem load_rest (nothing : worker.pending = []) (cause : FlushCause) :
    (worker.rest cause).load ≤ 3 * worker.queue.length + 2 := by
  cases cause <;> simp [Worker.load, Worker.rest, Activity.load, nothing]

theorem load_lt_of_take (taken : before.take? Script.world shard = some after) :
    after.load < before.load := by
  unfold take? at taken
  split at taken
  · cases taken
  · rename_i worker found
    split at taken
    · rename_i word queue idle front
      have former : worker.load = 3 * (queue.length + 1) + (2 + 2 * worker.pending.length) := by
        rw [Worker.load, idle, front, List.length_cons]
        rfl
      dsimp only at taken
      split at taken
      · cases taken
        have flushed := load_flush before found
          (({ worker with queue := queue } : Worker).apply word) .full (by simp [Worker.apply])
        change _ ≤ before.load + 3 * queue.length + 3 at flushed
        omega
      · cases taken
        have kept := load_setWorker before found
          (({ worker with queue := queue } : Worker).apply word)
        have counted : (({ worker with queue := queue } : Worker).apply word).load =
            3 * queue.length + (2 + 2 * (worker.pending.length + 1)) := by
          simp only [Worker.load, Worker.apply, idle, Activity.load, List.length_append,
            List.length_singleton]
        omega
    · rename_i idle empty
      have former : worker.load = 2 + 2 * worker.pending.length := by
        rw [Worker.load, idle, empty, List.length_nil, Nat.mul_zero, Nat.zero_add]
        rfl
      split at taken
      · cases taken
        by_cases nothing : worker.pending = []
        · rw [flush_of_nil before nothing]
          have kept := load_setWorker before found (worker.rest .drain)
          have done : (worker.rest .drain).load = 0 := by
            simp [Worker.load, Worker.rest, Activity.load, empty]
          omega
        · have flushed := load_flush before found worker .drain nothing
          have some := List.length_pos_iff.mpr nothing
          rw [empty, List.length_nil] at flushed
          omega
      · cases taken
    · cases taken

theorem load_of_tick (taken : before.tick? Script.world shard = some after) :
    if before.isIdleTick (.tick shard) then after.load = before.load
    else after.load < before.load := by
  unfold tick? at taken
  split at taken
  · cases taken
  · rename_i worker found
    split at taken
    · rename_i idle
      have former : worker.load =
          3 * worker.queue.length + (2 + 2 * worker.pending.length) := by
        rw [Worker.load, idle]
        rfl
      split at taken
      · cases taken
        simp only [isIdleTick, found, Option.any_some]
        let ticked := worker.ticked before.now before.settings.commitMillis
        by_cases nothing : worker.pending = []
        · rw [if_pos (List.isEmpty_iff.mpr nothing)]
          have empty : ticked.pending = [] := nothing
          have rested : flush Script.world before shard ticked .tick =
              before.setWorker shard (ticked.rest .tick) := flush_of_nil before empty .tick
          have kept := load_setWorker before found (ticked.rest .tick)
          have same : (ticked.rest .tick).load =
              3 * worker.queue.length + (2 + 2 * worker.pending.length) := rfl
          change (flush Script.world before shard ticked .tick).load = before.load
          rw [rested]
          omega
        · rw [if_neg (by simpa using nothing)]
          have flushed := load_flush before found ticked .tick nothing
          have some := List.length_pos_iff.mpr nothing
          change _ ≤ before.load + 3 * worker.queue.length + 3 at flushed
          change (flush Script.world before shard ticked .tick).load < before.load
          omega
      · cases taken
    · cases taken

theorem load_lt_of_settle {due attempt : Nat} {error : Option SinkError} {cause : FlushCause}
    (found : before.workers[shard]? = some worker)
    (calling : worker.activity = .publishing due attempt error cause) :
    (before.settle shard worker attempt cause error).load < before.load := by
  cases error with
  | none =>
    have former : worker.load = 3 * worker.queue.length + 3 := by
      rw [Worker.load, calling]
      rfl
    have kept := load_setWorker before found (worker.committed cause)
    have rest := @load_rest { worker with
      emitted := worker.emitted + worker.pending.length, pending := [] } rfl cause
    have same : (before.settle shard worker attempt cause none).load =
        (before.setWorker shard (worker.committed cause)).load := rfl
    change (worker.committed cause).load ≤ 3 * worker.queue.length + 2 at rest
    omega
  | some error =>
    have former : worker.load = 3 * worker.queue.length + 5 := by
      rw [Worker.load, calling]
      rfl
    by_cases again : (error.isRetryable && before.settings.sinkRetry.allows attempt) = true
    · let paused : Worker :=
        { worker with
          activity := .pausing
            (before.now + (before.settings.sinkRetry.backoff attempt).millis) (attempt + 1)
            cause }
      have kept := load_setWorker before found paused
      have same : (before.settle shard worker attempt cause (some error)).load =
          (before.setWorker shard paused).load := by
        simp only [settle, again, ↓reduceIte]
        rfl
      have pausing : paused.load = 3 * worker.queue.length + 4 := rfl
      omega
    · have kept := load_setWorker before found { worker with activity := .failed }
      have told : (before.settle shard worker attempt cause (some error)).load =
          (before.setWorker shard { worker with activity := .failed }).load + 1 := by
        simp only [settle, again, Bool.false_eq_true, ↓reduceIte]
        simp only [load, setWorker, post, say, List.length_append, List.length_singleton]
        omega
      have failed : ({ worker with activity := .failed } : Worker).load =
          3 * worker.queue.length := rfl
      omega

theorem load_lt_of_wake (taken : before.wake? Script.world shard = some after) :
    after.load < before.load := by
  unfold wake? at taken
  split at taken
  · cases taken
  · rename_i worker found
    split at taken
    · rename_i due attempt error cause calling
      split at taken
      · cases taken
        exact load_lt_of_settle found calling
      · cases taken
    · rename_i due attempt cause resting
      split at taken
      · cases taken
        have former : worker.load = 3 * worker.queue.length + 4 := by
          rw [Worker.load, resting]
          rfl
        have published := load_publish before found worker attempt cause
        omega
      · cases taken
    · cases taken

theorem load_lt_of_dispatch (taken : before.dispatch? Script.world = some after) :
    after.load < before.load := by
  have world := world_of_dispatch taken
  have answered := load_answered before
  cases dispatch_change taken with
  | @intake answer dispatcher counters mail step asked unhanded next lines =>
    have done := step.load_lt
    change next = _ at world
    rw [asked, ← world] at answered
    have stop : (!(before.stopRequested || answer.any Poll.interrupts)).toNat ≤
        (!before.stopRequested).toNat := by
      cases before.stopRequested with
      | true => exact Nat.le_refl _
      | false => exact Bool.toNat_le _
    simp only [load, moved, List.length_append]
    omega
  | hand word words rest worker handing found alive room =>
    have sum := sum_map_set Worker.load found { worker with queue := worker.queue ++ [word] }
    have queued : ({ worker with queue := worker.queue ++ [word] } : Worker).load =
        worker.load + 3 := by
      simp only [Worker.load, List.length_append, List.length_singleton]
      omega
    simp only [load, handing, Dispatcher.load, List.length_cons]
    omega
  | work mine => cases mine

theorem load_lt_of_supervise (open_ : before.outcome = none)
    (taken : before.supervise? = some after) : after.load < before.load := by
  have change : Change Script.world before .supervise after := supervise_change taken
  cases change with
  | hear message mail lines first =>
    simp only [load, delivered, first, List.length_cons]
    omega
  | died | returned =>
    simp only [load, delivered, open_, Option.isNone_some, Option.isNone_none, Bool.toNat_false,
      Bool.toNat_true]
    omega
  | work mine => cases mine

theorem load_lt_of_heed (taken : before.heed? = some after) : after.load < before.load := by
  have change : Change Script.world before .heed after := heed_change taken
  cases change with
  | heed lines requested unseen =>
    simp only [load, delivered, unseen, Bool.not_false, Bool.not_true, Bool.toNat_false,
      Bool.toNat_true]
    omega
  | work mine => cases mine

theorem load_lt_of_request (taken : before.request? = some after) : after.load < before.load := by
  have change : Change Script.world before .request after := request_change taken
  cases change with
  | request time planned due unrequested =>
    simp only [load, unrequested, Bool.not_false, Bool.not_true, Bool.toNat_false,
      Bool.toNat_true]
    omega
  | work mine => cases mine

/-- An idle tick leaves everything that is to be done, and every other step does some of it. -/
theorem load_of_act (taken : before.act Script.world action = some after) :
    if before.isIdleTick action then after.load = before.load
    else after.load < before.load := by
  have open_ := (change_of_act taken).1
  simp only [act, open_, Option.isSome_none, Bool.false_eq_true, ↓reduceIte] at taken
  cases action with
  | request => exact load_lt_of_request taken
  | heed => exact load_lt_of_heed taken
  | supervise => exact load_lt_of_supervise open_ taken
  | dispatch => exact load_lt_of_dispatch taken
  | take shard => exact load_lt_of_take taken
  | tick shard => exact load_of_tick taken
  | wake shard => exact load_lt_of_wake taken

end Config

/-- The steps of a run that are more than idle ticks. -/
def History.busy {σ : Type} (history : History σ) : History σ :=
  history.filter fun step => !step.1.isIdleTick step.2

/-- Every step that is more than an idle tick is paid for. -/
theorem Run.busy_le {first config : Config Script} {history : History Script}
    (run : Run Script.world first history config) :
    (History.busy history).length + config.load ≤ first.load := by
  induction run with
  | start => exact Nat.le_of_eq (Nat.zero_add _)
  | @act history before after action earlier taken ih =>
    have paid := Config.load_of_act taken
    cases idle : before.isIdleTick action with
    | true =>
      rw [if_pos idle] at paid
      have same : History.busy (history ++ [(before, action)]) = History.busy history := by
        simp [History.busy, idle]
      rw [same]
      omega
    | false =>
      rw [idle, if_neg Bool.false_ne_true] at paid
      have longer : (History.busy (history ++ [(before, action)])).length =
          (History.busy history).length + 1 := by
        simp [History.busy, idle]
      omega
  | pass time earlier later ih => exact ih

end Pipeline

end WordTally
