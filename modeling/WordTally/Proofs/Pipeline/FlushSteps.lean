import WordTally.Proofs.Pipeline.Failing

set_option autoImplicit false

namespace WordTally.Pipeline

variable {σ : Type} {world : World σ}

def Worker.isFlushing (worker : Worker) : Bool :=
  match worker.activity with
  | .publishing _ _ _ _ | .pausing _ _ _ => true
  | _ => false

def Config.isFlushing (config : Config σ) (shard : Nat) : Bool :=
  (config.workers[shard]?).any Worker.isFlushing

theorem Worker.not_flushing_rest (worker : Worker) (cause : FlushCause) :
    (worker.rest cause).isFlushing = false := by
  cases cause <;> rfl

theorem Worker.not_flushing_committed (worker : Worker) (cause : FlushCause) :
    (worker.committed cause).isFlushing = false :=
  not_flushing_rest _ cause

section Steps

variable {before after : Config σ} {action : Config.Action} {shard : Nat} {worker : Worker}

/-- A worker in the middle of a flush only wakes. -/
theorem Config.wakes_of_flushing (taken : before.act world action = some after)
    (found : before.workers[shard]? = some worker) (flushing : worker.isFlushing = true)
    (mine : action.worker? = some shard) : action = .wake shard := by
  have busy : worker.activity ≠ .receiving := by
    intro idle
    rw [Worker.isFlushing, idle] at flushing
    cases flushing
  have open_ := (change_of_act taken).1
  cases action with
  | request | heed | supervise | dispatch => cases mine
  | wake other => cases mine; rfl
  | take other =>
    cases mine
    cases activity : worker.activity with
    | receiving => exact absurd activity busy
    | publishing | pausing | finished | failed | panicked =>
      simp [act, open_, take?, found, activity] at taken
  | tick other =>
    cases mine
    cases activity : worker.activity with
    | receiving => exact absurd activity busy
    | publishing | pausing | finished | failed | panicked =>
      simp [act, open_, tick?, found, activity] at taken

/-- The steps of others leave a shard as it is, but for words that come into its queue. -/
theorem Config.Change.elsewhere (change : Config.Change world before action after)
    (other : action.worker? ≠ some shard) (found : before.workers[shard]? = some worker) :
    (∃ queue, after.workers[shard]? = some { worker with queue := queue }) ∧
      after.callsOf shard = before.callsOf shard := by
  cases change with
  | request | heed | hear | died | returned | intake => exact ⟨⟨worker.queue, found⟩, rfl⟩
  | hand word words rest target handing atTarget alive room =>
    refine ⟨?_, rfl⟩
    by_cases here : shardOf word before.workers.length = shard
    · rw [here, found] at atTarget
      cases atTarget
      rw [here]
      exact ⟨_, List.getElem?_set_self (List.getElem?_eq_some_iff.mp found).1⟩
    · refine ⟨worker.queue, ?_⟩
      rw [List.getElem?_set_ne here]
      exact found
  | @work action target own next traffic mine atTarget step unsent counted world =>
    have apart : target ≠ shard := fun same => other (same ▸ mine)
    refine ⟨⟨worker.queue, ?_⟩, callsOf_append_other _ _ apart step.calls_shard⟩
    rw [worked, List.getElem?_set_ne apart]
    exact found

theorem Config.publish_call (world : World σ) (config : Config σ) {shard : Nat}
    (inside : shard < config.workers.length) (worker : Worker) (attempt : Nat)
    (cause : FlushCause) :
    ∃ delivery,
      (config.publish world shard worker attempt cause).workers[shard]? =
        some (worker.calling config.now delivery attempt cause) ∧
      (config.publish world shard worker attempt cause).callsOf shard =
        config.callsOf shard ++ [worker.call config.now shard delivery] := by
  obtain ⟨delivery, lines, next, called⟩ :=
    publish_eq world config shard worker attempt cause []
  rw [called]
  exact ⟨delivery, List.getElem?_set_self inside,
    callsOf_append _ _ _ fun call member => by cases List.mem_singleton.mp member; rfl⟩

section Settle

variable {error : SinkError} (config : Config σ) (worker : Worker) (attempt : Nat)
  (cause : FlushCause)

theorem Config.settle_accepted (inside : shard < config.workers.length) :
    (config.settle shard worker attempt cause none).workers[shard]? =
      some (worker.committed cause) :=
  List.getElem?_set_self inside

theorem Config.settle_retried (inside : shard < config.workers.length)
    (again : (error.isRetryable && config.settings.sinkRetry.allows attempt) = true) :
    (config.settle shard worker attempt cause (some error)).workers[shard]? = some
      { worker with
        activity := .pausing (config.now + (config.settings.sinkRetry.backoff attempt).millis)
          (attempt + 1) cause } := by
  simp only [settle, again, if_true]
  exact List.getElem?_set_self inside

theorem Config.settle_failed (inside : shard < config.workers.length)
    (final : (error.isRetryable && config.settings.sinkRetry.allows attempt) = false) :
    (config.settle shard worker attempt cause (some error)).workers[shard]? =
        some { worker with activity := .failed } ∧
      GivesUp config (config.settle shard worker attempt cause (some error)) shard
        worker.pending.length error := by
  simp only [settle, final, Bool.false_eq_true, if_false]
  exact ⟨List.getElem?_set_self inside, rfl, rfl⟩

theorem Config.callsOf_settle (outcome : Option SinkError) :
    (config.settle shard worker attempt cause outcome).callsOf shard = config.callsOf shard := by
  cases outcome with
  | none => rfl
  | some error =>
    simp only [settle]
    split <;> rfl

end Settle

theorem Config.wake_of_publishing {due attempt : Nat} {error : Option SinkError}
    {cause : FlushCause} (taken : before.act world (.wake shard) = some after)
    (found : before.workers[shard]? = some worker)
    (calling : worker.activity = .publishing due attempt error cause) :
    due ≤ before.now ∧ after = before.settle shard worker attempt cause error := by
  have open_ := (change_of_act taken).1
  simp only [act, open_, Option.isSome_none, Bool.false_eq_true, if_false, wake?, found,
    calling] at taken
  split at taken
  · rename_i elapsed
    cases taken
    exact ⟨elapsed, rfl⟩
  · cases taken

theorem Config.wake_of_pausing {due attempt : Nat} {cause : FlushCause}
    (taken : before.act world (.wake shard) = some after)
    (found : before.workers[shard]? = some worker)
    (resting : worker.activity = .pausing due attempt cause) :
    due ≤ before.now ∧ after = before.publish world shard worker attempt cause := by
  have open_ := (change_of_act taken).1
  simp only [act, open_, Option.isSome_none, Bool.false_eq_true, if_false, wake?, found,
    resting] at taken
  split at taken
  · rename_i elapsed
    cases taken
    exact ⟨elapsed, rfl⟩
  · cases taken

end Steps

/-- The worker of a shard brings its flush to an end by its own steps, if it is given the time. -/
def Config.FlushEnds (world : World σ) (shard : Nat) (config : Config σ) : Prop :=
  ∃ further final, Run world config further final ∧
    (∀ step ∈ further, step.2 = .wake shard ∧ step.1.isFlushing shard = true) ∧
    final.isFlushing shard = false

namespace Config

variable {config before after : Config σ} {shard : Nat} {worker : Worker}

theorem FlushEnds.of_calm (calm : config.isFlushing shard = false) :
    config.FlushEnds world shard :=
  ⟨[], config, .start, fun _ member => absurd member List.not_mem_nil, calm⟩

theorem FlushEnds.of_wake {time : Nat} (ahead : config.now ≤ time)
    (flushing : config.isFlushing shard = true)
    (taken : ({ config with now := time } : Config σ).act world (.wake shard) = some after)
    (ends : after.FlushEnds world shard) : config.FlushEnds world shard := by
  obtain ⟨further, final, run, own, calm⟩ := ends
  have passed : Run world config [] { config with now := time } := .pass time .start ahead
  have first := passed.act (.wake shard) taken
  refine ⟨_, final, first.trans run, ?_, calm⟩
  intro step member
  rcases List.mem_append.mp member with here | ahead
  · cases List.mem_singleton.mp here
    exact ⟨rfl, flushing⟩
  · exact own step ahead

theorem Change.outcome_of_worker? {action : Action} (change : Change world before action after)
    (mine : action.worker? = some shard) : after.outcome = before.outcome := by
  cases change with
  | request | heed | hear | died | returned | intake | hand => cases mine
  | work => rfl

theorem exists_of_isFlushing (flushing : config.isFlushing shard = true) :
    ∃ worker, config.workers[shard]? = some worker ∧ worker.isFlushing = true :=
  (Option.any_eq_true _ _).mp flushing

/-- Nobody ends a run in which a shard is in the middle of a flush. -/
theorem Change.outcome_of_flushing {action : Action} (change : Change world before action after)
    (flushing : before.isFlushing shard = true) : after.outcome = before.outcome := by
  obtain ⟨worker, found, busy⟩ := exists_of_isFlushing flushing
  have working : before.allGone = false := by
    apply Bool.eq_false_iff.mpr
    intro gone
    have left := List.all_eq_true.mp (Bool.and_eq_true_iff.mp gone).2 worker
      (List.mem_of_getElem? found)
    cases activity : worker.activity <;> simp_all [Worker.isGone, Worker.isFlushing]
  cases change with
  | request | heed | hear | intake | hand | work => rfl
  | died silent gone => rw [working] at gone; cases gone
  | returned lines silent gone => rw [working] at gone; cases gone

theorem flushEnds_of_pausing {due attempt : Nat} {cause : FlushCause}
    (open_ : config.outcome = none) (found : config.workers[shard]? = some worker)
    (resting : worker.activity = .pausing due attempt cause)
    (ends : ∀ (next : Config σ) (again : Worker) (time : Nat) (error : Option SinkError),
      next.outcome = none → next.settings = config.settings →
      next.workers[shard]? = some again →
      again.activity = .publishing time attempt error cause → next.FlushEnds world shard) :
    config.FlushEnds world shard := by
  have flushing : config.isFlushing shard = true := by
    simp [isFlushing, found, Worker.isFlushing, resting]
  let ready : Config σ := { config with now := max config.now due }
  have elapsed : due ≤ max config.now due := Nat.le_max_right _ _
  have published : ready.act world (.wake shard) =
      some (ready.publish world shard worker attempt cause) := by
    simp only [ready, act, open_, wake?, found, resting, elapsed, Option.isSome_none,
      Bool.false_eq_true, ↓reduceIte]
  have change := (change_of_act published).2
  obtain ⟨delivery, calling, _⟩ := ready.publish_call world
    (List.getElem?_eq_some_iff.mp found).1 worker attempt cause
  exact .of_wake (Nat.le_max_left _ _) flushing published
    (ends _ _ _ _ ((change.outcome_of_worker? rfl).trans open_) change.settings_eq calling rfl)

/-- From a publish call a flush comes to its end, since each retry leaves one fewer. -/
theorem flushEnds_of_publishing {due attempt : Nat} {error : Option SinkError} {cause : FlushCause}
    (open_ : config.outcome = none) (found : config.workers[shard]? = some worker)
    (calling : worker.activity = .publishing due attempt error cause) :
    config.FlushEnds world shard := by
  induction spare : config.settings.sinkRetry.maxRetries - attempt using Nat.strongRecOn
    generalizing config worker due attempt error with
  | ind left ih =>
    have inside := (List.getElem?_eq_some_iff.mp found).1
    have flushing : config.isFlushing shard = true := by
      simp [isFlushing, found, Worker.isFlushing, calling]
    let ready : Config σ := { config with now := max config.now due }
    have elapsed : due ≤ max config.now due := Nat.le_max_right _ _
    have settled : ready.act world (.wake shard) =
        some (ready.settle shard worker attempt cause error) := by
      simp only [ready, act, open_, wake?, found, calling, elapsed, Option.isSome_none,
        Bool.false_eq_true, ↓reduceIte]
    have change := (change_of_act settled).2
    refine .of_wake (Nat.le_max_left _ _) flushing settled ?_
    cases error with
    | none =>
      have result := ready.settle_accepted worker attempt cause inside
      refine .of_calm ?_
      rw [isFlushing, result, Option.any_some, Worker.not_flushing_committed]
    | some error =>
      by_cases again : (error.isRetryable && ready.settings.sinkRetry.allows attempt) = true
      · have spared : attempt < config.settings.sinkRetry.maxRetries :=
          of_decide_eq_true (Bool.and_eq_true_iff.mp again).2
        refine flushEnds_of_pausing ((change.outcome_of_worker? rfl).trans open_)
          (ready.settle_retried worker attempt cause inside again) rfl ?_
        intro next other time outcome running settings present publishing
        have same : next.settings.sinkRetry.maxRetries = config.settings.sinkRetry.maxRetries := by
          rw [settings, change.settings_eq]
        exact ih _ (by omega) running present publishing rfl
      · have result := (ready.settle_failed worker attempt cause inside
          (Bool.eq_false_iff.mpr again)).1
        exact .of_calm (by simp [isFlushing, result, Worker.isFlushing])

/-- Every flush can be brought to its end. -/
theorem flushEnds (open_ : config.outcome = none) : config.FlushEnds world shard := by
  cases flushing : config.isFlushing shard with
  | false => exact .of_calm flushing
  | true =>
    obtain ⟨worker, found, busy⟩ := exists_of_isFlushing flushing
    cases activity : worker.activity with
    | publishing => exact flushEnds_of_publishing open_ found activity
    | pausing =>
      refine flushEnds_of_pausing open_ found activity ?_
      intro next again time error running settings present publishing
      exact flushEnds_of_publishing running present publishing
    | receiving | finished | failed | panicked => simp [Worker.isFlushing, activity] at busy

end Config

/-- A run does not end while a flush goes on. -/
theorem Run.outcome_of_within {config last : Config σ} {later : History σ} {shard : Nat}
    (run : Run world config later last)
    (within : ∀ step ∈ later, step.1.isFlushing shard = true) :
    last.outcome = config.outcome := by
  induction run with
  | start => rfl
  | act action soFar taken ih =>
    have flushing := within _ (List.mem_append_right _ List.mem_cons_self)
    exact ((Config.change_of_act taken).2.outcome_of_flushing flushing).trans
      (ih fun step member => within step (List.mem_append_left _ member))
  | pass time soFar ahead ih => exact ih within

end WordTally.Pipeline
