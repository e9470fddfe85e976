import WordTally.Proofs.Pipeline.FlushCourse

set_option autoImplicit false

namespace WordTally.Pipeline

variable {σ : Type}

section Whole

variable {retry : RetryPolicy} {outcomes : Nat → Delivery} {tries : Nat}

/-- A flush succeeds whose first outcome that is no transient failure comes within the budget, and
is a success. -/
def Succeeds (retry : RetryPolicy) (outcomes : Nat → Delivery) : Prop :=
  ∃ k : Nat, transients outcomes = k ∧ k ≤ retry.maxRetries ∧ (outcomes k).error = none

theorem succeeds_of_success (early : ∀ j < tries, (outcomes j).isTransient = true)
    (budget : tries ≤ retry.maxRetries) (success : (outcomes tries).error = none) :
    Succeeds retry outcomes := by
  have lasting : (outcomes tries).isTransient = false := by
    rw [Delivery.isTransient, success, Option.any_none]
  exact ⟨tries, le_antisymm (transients_le lasting) (le_transients.mpr early), budget, success⟩

theorem lasting_or_spent {error : SinkError} (budget : tries ≤ retry.maxRetries)
    (failure : (outcomes tries).error = some error)
    (final : (error.isRetryable && retry.allows tries) = false) :
    (outcomes tries).isTransient = false ∨ tries = retry.maxRetries := by
  rcases Bool.and_eq_false_iff.mp final with lasting | spent
  · exact .inl (by rw [Delivery.isTransient, failure, Option.any_some, lasting])
  · exact .inr (le_antisymm budget (Nat.le_of_not_lt (of_decide_eq_false spent)))

theorem not_succeeds_of_failure {error : SinkError}
    (early : ∀ j < tries, (outcomes j).isTransient = true)
    (failure : (outcomes tries).error = some error)
    (last : (outcomes tries).isTransient = false ∨ tries = retry.maxRetries) :
    ¬ Succeeds retry outcomes := by
  rintro ⟨k, count, within, success⟩
  have lower : tries ≤ k := by
    rw [← Nat.cast_le (α := ℕ∞), ← count]
    exact le_transients.mpr early
  have same : k = tries := by
    rcases last with lasting | rfl
    · refine le_antisymm ?_ lower
      rw [← Nat.cast_le (α := ℕ∞), ← count]
      exact transients_le lasting
    · exact le_antisymm within lower
  rw [same, failure] at success
  cases success

end Whole

/-- A flush is all or nothing, whatever the sink answers and whatever the other tasks do meanwhile.

With nothing pending it publishes nothing. Otherwise, let `tries` be the number of transient
failures in a row at the beginning, or the budget of retries if that is less. As long as the flush
goes on, what is seen of it is a first part of `tries + 1` publish calls with the same updates and
of the pauses between them, each event waits for the one before it to be over, the worker has
changed in nothing but its queue, and its count of retries is within the budget. In the end all this
was seen. If the flush succeeds, nothing is pending any more and all the updates count as emitted;
if it fails, the worker is as it was, and gives up with the error of the last call. And the end can
always be reached by steps of this worker alone. -/
theorem Config.flush_all_or_nothing (world : World σ) (config : Config σ) {shard : Nat}
    (inside : shard < config.workers.length) (worker : Worker) (cause : FlushCause) :
    let retry := config.settings.sinkRetry
    let begun := config.flush world shard worker cause
    (worker.pending = [] → begun = config.setWorker shard (worker.rest cause)) ∧
      (worker.pending ≠ [] → ∀ later last, Run world begun later last →
        (∀ step ∈ later, step.1.isFlushing shard = true) →
        let trace := config.flushEvents begun shard ++ History.flushTrace world shard later
        ∀ outcomes, Answered outcomes trace →
        let tries := (min (transients outcomes) retry.maxRetries).toNat
        trace.map Prod.snd <+: course retry worker.pending outcomes tries ∧
        trace.IsChain FlushEvent.Follows ∧
        (last.isFlushing shard = true → ∃ queue activity attempt,
          last.workers[shard]? = some { worker with queue := queue, activity := activity } ∧
          activity.attempt? = some attempt ∧ attempt ≤ retry.maxRetries) ∧
        (last.isFlushing shard = false →
          trace.map Prod.snd = course retry worker.pending outcomes tries ∧
          (∃ calls, last.callsOf shard = config.callsOf shard ++ calls ∧
            calls.map Publication.updates = List.replicate (tries + 1) worker.pending) ∧
          ∃ queue,
            (Succeeds retry outcomes ∧ last.workers[shard]? =
              some { worker with
                queue := queue
                pending := []
                emitted := worker.emitted + worker.pending.length
                activity := (worker.rest cause).activity }) ∨
            (¬ Succeeds retry outcomes ∧
              last.workers[shard]? = some { worker with queue := queue, activity := .failed } ∧
              ∃ error, (outcomes tries).error = some error ∧
                History.GaveUp world later shard worker.pending.length error)) ∧
        (config.outcome = none → last.FlushEnds world shard)) := by
  intro retry begun
  refine ⟨flush_eq_setWorker world config shard worker cause, ?_⟩
  intro something later last run within trace outcomes answered tries
  obtain ⟨_, inv⟩ := run.flushInv inside something within answered
  obtain ⟨present, found, stage⟩ := inv.stage
  have open_ : begun.outcome = config.outcome := by
    change (config.flush world shard worker cause).outcome = _
    rw [flush_eq_publish world config shard worker cause something]
    rfl
  have ends : config.outcome = none → last.FlushEnds world shard := fun running =>
    flushEnds ((run.outcome_of_within within).trans (open_.trans running))
  have flushing : last.isFlushing shard = present.isFlushing := by
    rw [isFlushing, found, Option.any_some]
  rw [flushing]
  -- While the flush goes on a first part of its course is seen, in the end all of it.
  cases stage with
  | publishing queue due attempt seen early budget lasts =>
    refine ⟨?_, inv.chain, fun _ => ⟨queue, _, attempt, found, rfl, budget⟩,
      fun calm => absurd calm.symm Bool.false_ne_true, ends⟩
    rw [seen]
    exact isPrefix_course (le_toNat_min_transients early budget)
  | pausing queue due attempt seen early budget lasts =>
    refine ⟨?_, inv.chain, fun _ => ⟨queue, _, attempt + 1, found, rfl, budget⟩,
      fun calm => absurd calm.symm Bool.false_ne_true, ends⟩
    rw [seen]
    exact isPrefix_course_paused (le_toNat_min_transients early budget)
  | accepted queue n seen early budget success =>
    have lasting : (outcomes n).isTransient = false := by
      rw [Delivery.isTransient, success, Option.any_none]
    have total : tries = n := toNat_min_transients early budget (.inl lasting)
    rw [Worker.not_flushing_committed, total]
    refine ⟨seen ▸ List.prefix_rfl, inv.chain, fun busy => absurd busy Bool.false_ne_true,
      fun _ => ⟨seen, inv.calls.replicate seen, queue, ?_⟩, ends⟩
    exact .inl ⟨succeeds_of_success early budget success, found⟩
  | failed queue n error seen early budget failure final why =>
    have last := lasting_or_spent budget failure final
    have total : tries = n := toNat_min_transients early budget last
    rw [total]
    refine ⟨seen ▸ List.prefix_rfl, inv.chain, fun busy => absurd busy Bool.false_ne_true,
      fun _ => ⟨seen, inv.calls.replicate seen, queue, ?_⟩, ends⟩
    exact .inr ⟨not_succeeds_of_failure early failure last, found, error, failure, why⟩

def seaWorker : Worker := ⟨fiveSeas, [], [⟨"sea", 6⟩], 0, .receiving, 10000⟩

/-- The sink is busy at first and accepts the second call. -/
def busyOutcomes (call : Nat) : Delivery :=
  if call = 0 then ⟨1, some (.transient "busy")⟩ else ⟨0, none⟩

def busyStart : Config Script :=
  Config.start narrow fiveSeas none (seaScript [busyOutcomes 0, busyOutcomes 1])

/-- The flush is tried again once, after the pause for a first retry, and then it succeeds. -/
theorem busyFlush_all_or_nothing :
    ∃ later last, Run Script.world (busyStart.flush Script.world 0 seaWorker .tick) later last ∧
      (∀ step ∈ later, step.1.isFlushing 0 = true) ∧ last.isFlushing 0 = false ∧
      (busyStart.flushEvents (busyStart.flush Script.world 0 seaWorker .tick) 0 ++
        History.flushTrace Script.world 0 later).map Prod.snd =
          [.called [⟨"sea", 6⟩] ⟨1, some (.transient "busy")⟩, .paused 100,
            .called [⟨"sea", 6⟩] ⟨0, none⟩] ∧
      ∃ queue, last.workers[0]? =
        some { seaWorker with queue := queue, pending := [], emitted := 1 } := by
  let begun := busyStart.flush Script.world 0 seaWorker .tick
  let steps : List (Nat × Config.Action) := [(1, .wake 0), (101, .wake 0), (101, .wake 0)]
  let calls (later : History Script) : List Delivery :=
    (busyStart.flushEvents begun 0 ++ History.flushTrace Script.world 0 later).filterMap
      fun event => event.2.delivery?
  have shown : (begun.replay Script.world steps).map (fun result =>
      (result.1.all fun step => step.1.isFlushing 0, result.2.isFlushing 0, calls result.1)) =
        some (true, false, [busyOutcomes 0, busyOutcomes 1]) := by
    decide +kernel
  obtain ⟨⟨later, last⟩, replayed, same⟩ := Option.map_eq_some_iff.mp shown
  obtain ⟨inside, others⟩ := Prod.mk.inj same
  obtain ⟨calm, outcomes⟩ := Prod.mk.inj others
  have run : Run Script.world begun later last := .of_replay replayed
  have within : ∀ step ∈ later, step.1.isFlushing 0 = true := List.all_eq_true.mp inside
  have answered : Answered busyOutcomes
      (busyStart.flushEvents begun 0 ++ History.flushTrace Script.world 0 later) := by
    intro j delivery made
    change (calls later)[j]? = some delivery at made
    rw [outcomes] at made
    match j with
    | 0 => exact Option.some.inj made
    | 1 => exact Option.some.inj made
    | _ + 2 => cases made
  have inside : 0 < busyStart.workers.length := by decide
  obtain ⟨_, _, _, finish, _⟩ := (Config.flush_all_or_nothing Script.world busyStart inside
    seaWorker .tick).2 (by decide) later _ run within _ answered
  obtain ⟨seen, _, queue, result⟩ := finish calm
  have early : ∀ j < 1, (busyOutcomes j).isTransient = true := by decide
  have tries : (min (transients busyOutcomes) busyStart.settings.sinkRetry.maxRetries).toNat = 1 :=
    toNat_min_transients early (by decide) (.inl rfl)
  rw [tries] at seen
  refine ⟨later, last, run, within, calm, seen, queue, ?_⟩
  rcases result with ⟨_, found⟩ | ⟨failed, _⟩
  · exact found
  · exact absurd (succeeds_of_success early (by decide) rfl) failed

end WordTally.Pipeline
