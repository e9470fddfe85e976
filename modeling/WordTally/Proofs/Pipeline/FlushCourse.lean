import WordTally.Proofs.Pipeline.FlushSteps
import Mathlib.Data.ENat.Lattice

/-
The course of a flush. Everything pending is offered in one publish call; as long as the call fails
with an error that may pass, and there are tries left, it is made again after a pause. What was seen
of a flush tells how far it has come, and until the sink has accepted the updates the worker keeps
all of them.
-/

set_option autoImplicit false

namespace WordTally

/-- The call failed, and the same updates may be accepted later. -/
def Delivery.isTransient (delivery : Delivery) : Bool := delivery.error.any SinkError.isRetryable

/-- How many deliveries in a row are transient failures before the first that is none. -/
noncomputable def transients (outcomes : Nat → Delivery) : ℕ∞ :=
  ⨅ (j : Nat) (_ : (outcomes j).isTransient = false), (j : ℕ∞)

section Transients

variable {outcomes : Nat → Delivery} {n limit : Nat}

theorem le_transients : (n : ℕ∞) ≤ transients outcomes ↔
    ∀ j < n, (outcomes j).isTransient = true := by
  rw [transients, le_iInf₂_iff]
  constructor
  · intro bound j early
    by_contra lasting
    have late := bound j (Bool.eq_false_iff.mpr lasting)
    exact absurd (Nat.cast_le.mp late) (Nat.not_le.mpr early)
  · intro early j lasting
    refine Nat.cast_le.mpr (Nat.le_of_not_lt fun before => ?_)
    rw [early j before] at lasting
    cases lasting

theorem transients_le (lasting : (outcomes n).isTransient = false) :
    transients outcomes ≤ n :=
  iInf₂_le n lasting

/-- The tries of a flush end with the first outcome that is no transient failure, or with the
budget. -/
theorem toNat_min_transients (early : ∀ j < n, (outcomes j).isTransient = true)
    (within : n ≤ limit) (last : (outcomes n).isTransient = false ∨ n = limit) :
    (min (transients outcomes) limit).toNat = n := by
  have lower : (n : ℕ∞) ≤ min (transients outcomes) limit :=
    le_min (le_transients.mpr early) (Nat.cast_le.mpr within)
  have upper : min (transients outcomes) limit ≤ (n : ℕ∞) := by
    rcases last with lasting | rfl
    · exact (min_le_left _ _).trans (transients_le lasting)
    · exact min_le_right _ _
  rw [le_antisymm upper lower, ENat.toNat_natCast]

theorem le_toNat_min_transients (early : ∀ j < n, (outcomes j).isTransient = true)
    (within : n ≤ limit) : n ≤ (min (transients outcomes) limit).toNat := by
  have lower : (n : ℕ∞) ≤ min (transients outcomes) limit :=
    le_min (le_transients.mpr early) (Nat.cast_le.mpr within)
  have finite : min (transients outcomes) limit ≠ ⊤ :=
    ne_top_of_le_ne_top (ENat.natCast_ne_top limit) (min_le_right _ _)
  rwa [← ENat.natCast_toNat finite, Nat.cast_le] at lower

end Transients

namespace Pipeline

variable {σ : Type} {world : World σ}

inductive FlushEvent where
  /-- A publish call, and what becomes of it. -/
  | called (updates : List Update) (delivery : Delivery)
  /-- A pause before the call is made again. -/
  | paused (millis : Nat)
  deriving DecidableEq, Repr

namespace FlushEvent

def millis : FlushEvent → Nat
  | .called _ delivery => delivery.millis
  | .paused millis => millis

def delivery? : FlushEvent → Option Delivery
  | .called _ delivery => some delivery
  | .paused _ => none

/-- What comes after an event waits until it is over. -/
def Follows (event next : Nat × FlushEvent) : Prop := event.1 + event.2.millis ≤ next.1

end FlushEvent

/-- The events of a flush that is tried again so often: one call more than there are retries, all of
them with the same updates, and before each retry the pause that is due. -/
def course (retry : RetryPolicy) (updates : List Update) (outcomes : Nat → Delivery) :
    Nat → List FlushEvent
  | 0 => [.called updates (outcomes 0)]
  | tries + 1 => course retry updates outcomes tries ++
      [.paused (retry.backoff tries).millis, .called updates (outcomes (tries + 1))]

/-- The publish calls seen so far have these outcomes, in order. -/
def Answered (outcomes : Nat → Delivery) (trace : List (Nat × FlushEvent)) : Prop :=
  ∀ j delivery, (trace.filterMap fun event => event.2.delivery?)[j]? = some delivery →
    outcomes j = delivery

/-- How often the call of a flush was tried again, or is about to be. -/
def Activity.attempt? : Activity → Option Nat
  | .publishing _ attempt _ _ | .pausing _ attempt _ => some attempt
  | _ => none

namespace Config

/-- The publish call that the worker of a shard makes in a step of its own, or the pause that it
begins, with the time. -/
def flushEvents (before after : Config σ) (shard : Nat) : List (Nat × FlushEvent) :=
  match (after.workers[shard]?).map Worker.activity with
  | some (.publishing due _ error _) =>
    ((after.callsOf shard).drop (before.callsOf shard).length).map fun call =>
      (call.time, .called call.updates ⟨due - call.time, error⟩)
  | some (.pausing due _ _) => [(before.now, .paused (due - before.now))]
  | _ => []

def flushTrace (world : World σ) (shard : Nat) (config : Config σ) (action : Action) :
    List (Nat × FlushEvent) :=
  if action.worker? = some shard then
    match config.act world action with
    | some after => config.flushEvents after shard
    | none => []
  else []

end Config

def History.flushTrace (world : World σ) (shard : Nat) (history : History σ) :
    List (Nat × FlushEvent) :=
  history.flatMap fun step => step.1.flushTrace world shard step.2

theorem History.flushTrace_concat (shard : Nat) (history : History σ) (config : Config σ)
    (action : Config.Action) :
    flushTrace world shard (history ++ [(config, action)]) =
      flushTrace world shard history ++ config.flushTrace world shard action := by
  simp only [flushTrace, List.flatMap_append, List.flatMap_singleton]

section Course

variable {retry : RetryPolicy} {updates : List Update} {outcomes : Nat → Delivery}

theorem isPrefix_course {tries total : Nat} (within : tries ≤ total) :
    course retry updates outcomes tries <+: course retry updates outcomes total := by
  induction within with
  | refl => exact List.prefix_rfl
  | step _ ih => exact ih.trans (List.prefix_append _ _)

/-- Where a flush is tried again, the pause comes first. -/
theorem isPrefix_course_paused {tries total : Nat} (within : tries < total) :
    course retry updates outcomes tries ++ [.paused (retry.backoff tries).millis] <+:
      course retry updates outcomes total := by
  refine List.IsPrefix.trans ?_ (isPrefix_course (Nat.succ_le_of_lt within))
  exact ⟨[.called updates (outcomes (tries + 1))], List.append_assoc ..⟩

theorem filterMap_course (tries : Nat) :
    (course retry updates outcomes tries).filterMap FlushEvent.delivery? =
      (List.range (tries + 1)).map outcomes := by
  induction tries with
  | zero => rfl
  | succ tries ih =>
    rw [course, List.filterMap_append, ih, List.range_succ (n := tries + 1), List.map_append]
    rfl

end Course

section Events

variable {before after : Config σ} {shard : Nat} {worker : Worker}

theorem Config.flushEvents_of_call {delivery : Delivery} {attempt : Nat} {cause : FlushCause}
    (found : after.workers[shard]? = some (worker.calling before.now delivery attempt cause))
    (calls : after.callsOf shard =
      before.callsOf shard ++ [worker.call before.now shard delivery]) :
    before.flushEvents after shard = [(before.now, .called worker.pending delivery)] := by
  simp [flushEvents, found, calls, Worker.calling, Worker.call]

theorem Config.flushEvents_of_pause {due attempt : Nat} {cause : FlushCause}
    (found : after.workers[shard]? = some worker)
    (resting : worker.activity = .pausing due attempt cause) :
    before.flushEvents after shard = [(before.now, .paused (due - before.now))] := by
  simp only [flushEvents, found, Option.map_some, resting]

theorem Config.flushEvents_of_calm (found : after.workers[shard]? = some worker)
    (calm : worker.isFlushing = false) : before.flushEvents after shard = [] := by
  cases activity : worker.activity with
  | receiving | finished | failed | panicked =>
    simp only [flushEvents, found, Option.map_some, activity]
  | publishing | pausing => simp only [Worker.isFlushing, activity, reduceCtorEq] at calm

end Events

/-- How far a flush has come that began with the worker `origin`, from what was seen of it. Until
the sink has accepted the updates, nothing of the worker changes but its queue and its activity. -/
inductive Stage (retry : RetryPolicy) (origin : Worker) (cause : FlushCause)
    (outcomes : Nat → Delivery) (told : SinkError → Prop) (trace : List (Nat × FlushEvent)) :
    Worker → Prop where
  | publishing (queue : List String) (due attempt : Nat)
      (seen : trace.map Prod.snd = course retry origin.pending outcomes attempt)
      (early : ∀ j < attempt, (outcomes j).isTransient = true)
      (budget : attempt ≤ retry.maxRetries)
      (lasts : ∀ event ∈ trace.getLast?, event.1 + event.2.millis ≤ due) :
      Stage retry origin cause outcomes told trace
        { origin with
          queue := queue
          activity := .publishing due attempt (outcomes attempt).error cause }
  | pausing (queue : List String) (due attempt : Nat)
      (seen : trace.map Prod.snd = course retry origin.pending outcomes attempt ++
        [.paused (retry.backoff attempt).millis])
      (early : ∀ j < attempt + 1, (outcomes j).isTransient = true)
      (budget : attempt < retry.maxRetries)
      (lasts : ∀ event ∈ trace.getLast?, event.1 + event.2.millis ≤ due) :
      Stage retry origin cause outcomes told trace
        { origin with queue := queue, activity := .pausing due (attempt + 1) cause }
  | accepted (queue : List String) (tries : Nat)
      (seen : trace.map Prod.snd = course retry origin.pending outcomes tries)
      (early : ∀ j < tries, (outcomes j).isTransient = true)
      (budget : tries ≤ retry.maxRetries)
      (success : (outcomes tries).error = none) :
      Stage retry origin cause outcomes told trace ({ origin with queue := queue }.committed cause)
  | failed (queue : List String) (tries : Nat) (error : SinkError)
      (seen : trace.map Prod.snd = course retry origin.pending outcomes tries)
      (early : ∀ j < tries, (outcomes j).isTransient = true)
      (budget : tries ≤ retry.maxRetries)
      (failure : (outcomes tries).error = some error)
      (final : (error.isRetryable && retry.allows tries) = false)
      (why : told error) :
      Stage retry origin cause outcomes told trace
        { origin with queue := queue, activity := .failed }

/-- The publish calls that were made since are those of a trace, and they offer these updates. -/
def Called (updates : List Update) (events : List (Nat × FlushEvent))
    (earlier now : List Publication) : Prop :=
  ∃ calls, now = earlier ++ calls ∧
    calls.length = (events.filterMap fun event => event.2.delivery?).length ∧
    ∀ call ∈ calls, call.updates = updates

theorem Called.silent {updates : List Update} {events : List (Nat × FlushEvent)}
    {earlier now : List Publication} (same : now = earlier)
    (silent : (events.filterMap fun event => event.2.delivery?) = []) :
    Called updates events earlier now :=
  ⟨[], by rw [same, List.append_nil], by rw [silent]; rfl, nofun⟩

theorem Called.trans {updates : List Update} {first second : List (Nat × FlushEvent)}
    {earlier middle now : List Publication} (called : Called updates first earlier middle)
    (next : Called updates second middle now) : Called updates (first ++ second) earlier now := by
  obtain ⟨calls, rfl, count, same⟩ := called
  obtain ⟨more, rfl, further, alike⟩ := next
  refine ⟨calls ++ more, List.append_assoc .., ?_, ?_⟩
  · rw [List.length_append, List.filterMap_append, List.length_append, count, further]
  · exact fun call member => (List.mem_append.mp member).elim (same call) (alike call)

/-- A flush that was tried so often has made one call more, with the same updates. -/
theorem Called.replicate {retry : RetryPolicy} {updates : List Update} {outcomes : Nat → Delivery}
    {trace : List (Nat × FlushEvent)} {earlier now : List Publication} {tries : Nat}
    (called : Called updates trace earlier now)
    (seen : trace.map Prod.snd = course retry updates outcomes tries) :
    ∃ calls, now = earlier ++ calls ∧
      calls.map Publication.updates = List.replicate (tries + 1) updates := by
  obtain ⟨calls, made, count, same⟩ := called
  refine ⟨calls, made, List.eq_replicate_iff.mpr ⟨?_, by simpa using same⟩⟩
  have answers := congrArg (List.filterMap FlushEvent.delivery?) seen
  rw [filterMap_course, List.filterMap_map] at answers
  have total := congrArg List.length answers
  rw [List.length_map, List.length_range] at total
  rw [List.length_map, count]
  exact total

theorem isChain_concat {trace : List (Nat × FlushEvent)} {event : Nat × FlushEvent}
    (chain : trace.IsChain FlushEvent.Follows) {due : Nat}
    (lasts : ∀ last ∈ trace.getLast?, last.1 + last.2.millis ≤ due) (elapsed : due ≤ event.1) :
    (trace ++ [event]).IsChain FlushEvent.Follows := by
  rw [List.isChain_append]
  refine ⟨chain, List.isChain_singleton _, fun last final next first => ?_⟩
  cases Option.mem_some_iff.mp first
  exact (lasts last final).trans elapsed

theorem Answered.next {outcomes : Nat → Delivery} {trace : List (Nat × FlushEvent)} {n time : Nat}
    {updates : List Update} {delivery : Delivery}
    (answered : Answered outcomes (trace ++ [(time, .called updates delivery)]))
    (earlier : (trace.map Prod.snd).filterMap FlushEvent.delivery? =
      (List.range n).map outcomes) : outcomes n = delivery := by
  rw [List.filterMap_map] at earlier
  apply answered
  have last : (trace.filterMap fun event => event.2.delivery?) = (List.range n).map outcomes :=
    earlier
  rw [List.filterMap_append, last, List.getElem?_append_right (by simp)]
  simp [FlushEvent.delivery?]

theorem Stage.stay {retry : RetryPolicy} {origin worker : Worker} {cause : FlushCause}
    {outcomes : Nat → Delivery} {told later : SinkError → Prop} {trace : List (Nat × FlushEvent)}
    (stage : Stage retry origin cause outcomes told trace worker) (queue : List String)
    (grow : ∀ error, told error → later error) :
    Stage retry origin cause outcomes later trace { worker with queue := queue } := by
  cases stage with
  | publishing _ due attempt seen early budget lasts =>
    exact .publishing queue due attempt seen early budget lasts
  | pausing _ due attempt seen early budget lasts =>
    exact .pausing queue due attempt seen early budget lasts
  | accepted _ tries seen early budget success =>
    exact .accepted queue tries seen early budget success
  | failed _ tries error seen early budget failure final why =>
    exact .failed queue tries error seen early budget failure final (grow error why)

structure FlushInv (retry : RetryPolicy) (origin : Worker) (cause : FlushCause)
    (outcomes : Nat → Delivery) (shard : Nat) (earlier : List Publication)
    (told : SinkError → Prop) (trace : List (Nat × FlushEvent)) (config : Config σ) : Prop where
  stage : ∃ worker, config.workers[shard]? = some worker ∧
    Stage retry origin cause outcomes told trace worker
  chain : trace.IsChain FlushEvent.Follows
  calls : Called origin.pending trace earlier (config.callsOf shard)

namespace FlushInv

variable {retry : RetryPolicy} {origin : Worker} {cause : FlushCause} {outcomes : Nat → Delivery}
  {shard : Nat} {earlier : List Publication} {told later : SinkError → Prop}
  {trace : List (Nat × FlushEvent)} {before after : Config σ} {queue : List String}

theorem elsewhere (inv : FlushInv retry origin cause outcomes shard earlier told trace before)
    {action : Config.Action} (change : Config.Change world before action after)
    (other : action.worker? ≠ some shard) (grow : ∀ error, told error → later error) :
    FlushInv retry origin cause outcomes shard earlier later trace after := by
  obtain ⟨worker, found, stage⟩ := inv.stage
  obtain ⟨⟨queue, present⟩, calls⟩ := change.elsewhere other found
  exact ⟨⟨_, present, stage.stay queue grow⟩, inv.chain, calls ▸ inv.calls⟩

theorem publish {due tries : Nat} (inside : shard < before.workers.length)
    (chain : trace.IsChain FlushEvent.Follows)
    (calls : Called origin.pending trace earlier (before.callsOf shard))
    (seen : trace.map Prod.snd ++ [.called origin.pending (outcomes tries)] =
      course retry origin.pending outcomes tries)
    (early : ∀ j < tries, (outcomes j).isTransient = true) (budget : tries ≤ retry.maxRetries)
    (lasts : ∀ last ∈ trace.getLast?, last.1 + last.2.millis ≤ due) (elapsed : due ≤ before.now)
    {resting : Activity}
    (published : after = before.publish world shard
      { origin with queue := queue, activity := resting } tries cause)
    (answered : Answered outcomes (trace ++ before.flushEvents after shard)) :
    FlushInv retry origin cause outcomes shard earlier told
      (trace ++ before.flushEvents after shard) after := by
  subst published
  obtain ⟨delivery, found, made⟩ := before.publish_call world inside
    { origin with queue := queue, activity := resting } tries cause
  rw [Config.flushEvents_of_call found made] at answered ⊢
  have prior : (trace.map Prod.snd).filterMap FlushEvent.delivery? =
      (List.range tries).map outcomes := by
    have whole := congrArg (List.filterMap FlushEvent.delivery?) seen
    rw [filterMap_course, List.filterMap_append, List.range_succ, List.map_append] at whole
    exact List.append_cancel_right whole
  cases answered.next prior
  refine ⟨⟨_, found, .publishing queue _ tries ?_ early budget ?_⟩,
    isChain_concat chain lasts elapsed, calls.trans ⟨_, made, rfl, ?_⟩⟩
  · rw [List.map_append]
    exact seen
  · intro event final
    rw [List.getLast?_concat] at final
    cases Option.mem_some_iff.mp final
    exact Nat.le_refl _
  · intro call member
    cases List.mem_singleton.mp member
    rfl

theorem settle {due attempt : Nat}
    (inside : shard < before.workers.length)
    (chain : trace.IsChain FlushEvent.Follows)
    (calls : Called origin.pending trace earlier (before.callsOf shard))
    (seen : trace.map Prod.snd =
      course before.settings.sinkRetry origin.pending outcomes attempt)
    (early : ∀ j < attempt, (outcomes j).isTransient = true)
    (budget : attempt ≤ before.settings.sinkRetry.maxRetries)
    (lasts : ∀ last ∈ trace.getLast?, last.1 + last.2.millis ≤ due) (elapsed : due ≤ before.now)
    {calling : Activity}
    (settled : after = before.settle shard
      { origin with queue := queue, activity := calling } attempt cause (outcomes attempt).error)
    (tell : ∀ error, GivesUp before after shard origin.pending.length error → told error) :
    FlushInv before.settings.sinkRetry origin cause outcomes shard earlier told
      (trace ++ before.flushEvents after shard) after := by
  subst settled
  cases result : (outcomes attempt).error with
  | none =>
    have found := before.settle_accepted
      { origin with queue := queue, activity := calling } attempt cause inside
    rw [Config.flushEvents_of_calm found (Worker.not_flushing_committed _ _)]
    refine ⟨⟨_, found, ?_⟩, by rwa [List.append_nil],
      calls.trans (.silent (before.callsOf_settle _ _ _ _) rfl)⟩
    rw [List.append_nil]
    exact .accepted queue attempt seen early budget result
  | some error =>
    rw [result] at tell
    by_cases again : (error.isRetryable && before.settings.sinkRetry.allows attempt) = true
    · obtain ⟨retryable, allowed⟩ := Bool.and_eq_true_iff.mp again
      have passing : (outcomes attempt).isTransient = true := by
        rw [Delivery.isTransient, result]
        exact retryable
      have found := before.settle_retried
        { origin with queue := queue, activity := calling } attempt cause inside again
      rw [Config.flushEvents_of_pause found rfl, Nat.add_sub_cancel_left]
      refine ⟨⟨_, found, .pausing queue _ attempt ?_ ?_ (of_decide_eq_true allowed) ?_⟩,
        isChain_concat chain lasts elapsed,
        calls.trans (.silent (before.callsOf_settle _ _ _ _) rfl)⟩
      · rw [List.map_append, seen]
        rfl
      · exact fun j bound => (Nat.lt_succ_iff_lt_or_eq.mp bound).elim (early j) (· ▸ passing)
      · intro event final
        rw [List.getLast?_concat] at final
        rw [← Option.mem_some_iff.mp final, FlushEvent.millis]
    · have final := Bool.eq_false_iff.mpr again
      obtain ⟨found, gaveUp⟩ := before.settle_failed
        { origin with queue := queue, activity := calling } attempt cause inside final
      rw [Config.flushEvents_of_calm found rfl]
      refine ⟨⟨_, found, ?_⟩, by rwa [List.append_nil],
        calls.trans (.silent (before.callsOf_settle _ _ _ _) rfl)⟩
      rw [List.append_nil]
      exact .failed queue attempt error seen early budget result final (tell error gaveUp)

theorem wake (inv : FlushInv retry origin cause outcomes shard earlier told trace before)
    (policy : before.settings.sinkRetry = retry) (flushing : before.isFlushing shard = true)
    (taken : before.act world (.wake shard) = some after)
    (answered : Answered outcomes (trace ++ before.flushEvents after shard))
    (tell : ∀ error, GivesUp before after shard origin.pending.length error → later error) :
    FlushInv retry origin cause outcomes shard earlier later
      (trace ++ before.flushEvents after shard) after := by
  obtain ⟨worker, found, stage⟩ := inv.stage
  have inside := (List.getElem?_eq_some_iff.mp found).1
  rw [Config.isFlushing, found, Option.any_some] at flushing
  cases stage with
  | publishing queue due attempt seen early budget lasts =>
    obtain ⟨elapsed, settled⟩ := Config.wake_of_publishing taken found rfl
    subst policy
    exact settle inside inv.chain inv.calls seen early budget lasts elapsed settled tell
  | pausing queue due attempt seen early budget lasts =>
    obtain ⟨elapsed, published⟩ := Config.wake_of_pausing taken found rfl
    have next : trace.map Prod.snd ++ [.called origin.pending (outcomes (attempt + 1))] =
        course retry origin.pending outcomes (attempt + 1) := by
      rw [seen, course, List.append_assoc]
      rfl
    exact publish inside inv.chain inv.calls next early budget lasts elapsed published answered
  | accepted => cases cause <;> cases flushing
  | failed => cases flushing

end FlushInv

section Run

variable {config last : Config σ} {later : History σ} {shard : Nat} {worker : Worker}
  {cause : FlushCause} {outcomes : Nat → Delivery}

theorem Answered.of_append {trace further : List (Nat × FlushEvent)}
    (answered : Answered outcomes (trace ++ further)) : Answered outcomes trace := by
  intro j delivery made
  refine answered j delivery ?_
  rw [List.filterMap_append, List.getElem?_append_left (List.getElem?_eq_some_iff.mp made).1]
  exact made

/-- The invariant of a flush holds until its last step, however the other tasks take theirs. -/
theorem Run.flushInv (inside : shard < config.workers.length) (something : worker.pending ≠ [])
    (run : Run world (config.flush world shard worker cause) later last)
    (within : ∀ step ∈ later, step.1.isFlushing shard = true)
    (answered : Answered outcomes
      (config.flushEvents (config.flush world shard worker cause) shard ++
        History.flushTrace world shard later)) :
    last.settings = config.settings ∧
      FlushInv config.settings.sinkRetry worker cause outcomes shard (config.callsOf shard)
        (History.GaveUp world later shard worker.pending.length)
        (config.flushEvents (config.flush world shard worker cause) shard ++
          History.flushTrace world shard later) last := by
  induction run with
  | start =>
    have begun := Config.flush_eq_publish world config shard worker cause something
    have settings : (config.flush world shard worker cause).settings = config.settings := by
      rw [begun]
      rfl
    refine ⟨settings, ?_⟩
    have first := answered.of_append
    have inv : FlushInv config.settings.sinkRetry worker cause outcomes shard
        (config.callsOf shard) (History.GaveUp world [] shard worker.pending.length)
        ([] ++ config.flushEvents (config.flush world shard worker cause) shard)
        (config.flush world shard worker cause) :=
      .publish inside .nil (.silent rfl rfl) rfl (fun j below => absurd below (Nat.not_lt_zero j))
        (Nat.zero_le _) nofun (Nat.zero_le _) begun first
    simpa only [History.flushTrace, List.flatMap_nil, List.append_nil, List.nil_append] using inv
  | @act history before after action soFar taken ih =>
    rw [History.flushTrace_concat, ← List.append_assoc] at answered ⊢
    obtain ⟨settings, inv⟩ := ih (fun step member => within step (List.mem_append_left _ member))
      answered.of_append
    have change := (Config.change_of_act taken).2
    have flushing := within (before, action) (List.mem_append_right _ List.mem_cons_self)
    refine ⟨change.settings_eq.trans settings, ?_⟩
    by_cases mine : action.worker? = some shard
    · obtain ⟨present, found, _⟩ := inv.stage
      have busy : present.isFlushing = true := by simpa [Config.isFlushing, found] using flushing
      cases Config.wakes_of_flushing taken found busy mine
      have events : before.flushTrace world shard (.wake shard) =
          before.flushEvents after shard := by
        simp only [Config.flushTrace, mine, if_true, taken]
      rw [events] at answered ⊢
      refine inv.wake (by rw [settings]) flushing taken answered fun error gives => ?_
      exact ⟨before, _, after, List.mem_append_right _ List.mem_cons_self, taken, gives⟩
    · rw [Config.flushTrace, if_neg mine, List.append_nil]
      exact inv.elsewhere change mine fun error gaveUp => gaveUp.concat _
  | pass time soFar ahead ih =>
    obtain ⟨settings, inv⟩ := ih within answered
    exact ⟨settings, inv.stage, inv.chain, inv.calls⟩

end Run

end Pipeline

end WordTally
