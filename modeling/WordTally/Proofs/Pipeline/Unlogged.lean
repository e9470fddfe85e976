import WordTally.Proofs.Pipeline.History

/-
Nothing is decided by what was logged. Two configurations that differ in their logs only take the
same steps, so whatever shows in the log alone, such as an error when the source is closed, changes
nothing else in a run.
-/

set_option autoImplicit false

namespace WordTally

/-- The same surroundings, but for what closing the source returns. -/
def World.closing {σ : Type} (world : World σ) (error : Option SourceError) : World σ :=
  { world with close := fun state => { world.close state with value := error } }

namespace Pipeline

variable {σ : Type}

def Config.withLog (config : Config σ) (log : List (Nat × LogLine)) : Config σ :=
  { config with log := log }

namespace Config

variable (world : World σ) (config : Config σ) (log : List (Nat × LogLine))

theorem eq_withLog_of_unlogged {first second : Config σ}
    (same : first.withLog [] = second.withLog []) : first = second.withLog first.log := by
  have restored := congrArg (withLog · first.log) same
  exact restored

theorem withLog_deliver (message : Message) :
    ((config.withLog log).deliver message).withLog [] = (config.deliver message).withLog [] := by
  obtain ⟨lines, told⟩ := deliver_eq config message
  obtain ⟨others, said⟩ := deliver_eq (config.withLog log) message
  rw [told, said]
  rfl

theorem conclude_of_hasDied (lost : config.hasDied = true) :
    config.conclude = { config with outcome := some .panicked } := if_pos lost

theorem conclude_of_alive (alive : ¬ config.hasDied = true) :
    config.conclude =
      { config.deliver .drained with outcome := some (config.deliver .drained).verdict } :=
  if_neg alive

theorem withLog_conclude :
    (config.withLog log).conclude.withLog [] = config.conclude.withLog [] := by
  by_cases lost : config.hasDied = true
  · rw [conclude_of_hasDied config lost, conclude_of_hasDied (config.withLog log) lost]
    rfl
  · obtain ⟨lines, told⟩ := deliver_eq config .drained
    obtain ⟨others, said⟩ := deliver_eq (config.withLog log) .drained
    rw [conclude_of_alive config lost, conclude_of_alive (config.withLog log) lost, told, said]
    rfl

theorem withLog_request :
    (config.withLog log).request?.map (withLog · []) = config.request?.map (withLog · []) := by
  unfold request? withLog
  cases config.stopAt with
  | none => rfl
  | some time =>
    dsimp only
    by_cases due : (decide (time ≤ config.now) && !config.stopRequested) = true
    · rw [if_pos due, if_pos due]
      rfl
    · rw [if_neg due, if_neg due]

theorem withLog_heed :
    (config.withLog log).heed?.map (withLog · []) = config.heed?.map (withLog · []) := by
  unfold heed? withLog
  dsimp only
  by_cases due : (config.stopRequested && !config.stopSeen) = true
  · rw [if_pos due, if_pos due]
    exact congrArg some (withLog_deliver ({ config with stopSeen := true }.say
      (.info "stop requested; finishing in-flight record")) (log ++ [(config.now,
        .info "stop requested; finishing in-flight record")]) .stopRequested)
  · rw [if_neg due, if_neg due]

theorem withLog_supervise :
    (config.withLog log).supervise?.map (withLog · []) = config.supervise?.map (withLog · []) := by
  unfold supervise?
  rw [show (config.withLog log).mail = config.mail from rfl,
    show (config.withLog log).allGone = config.allGone from rfl]
  cases mail : config.mail with
  | nil =>
    dsimp only
    by_cases gone : config.allGone = true
    · rw [if_pos gone, if_pos gone]
      exact congrArg some (withLog_conclude config log)
    · rw [if_neg gone, if_neg gone]
  | cons message rest =>
    exact congrArg some (withLog_deliver { config with mail := rest } log message)

theorem withLog_receive (attempt : Nat) (reply : Reply σ Poll) :
    ((config.withLog log).receive attempt reply).withLog [] =
      (config.receive attempt reply).withLog [] := by
  obtain ⟨answer, lines, next⟩ := reply
  cases answer with
  | failed error =>
    by_cases again : (error.isTransient && config.settings.sourceRetry.allows attempt) = true
    · simp [receive, received, withLog, sayAll, say, again]
    · simp [receive, received, withLog, sayAll, say, post, again]
  | batch | endOfStream | wait | interrupted | panicked => rfl

theorem withLog_read (raw : RawRecord) (rest : List RawRecord) :
    ((config.withLog log).read raw rest).withLog [] = (config.read raw rest).withLog [] := by
  unfold read
  cases raw.decode <;> rfl

theorem withLog_hand (word : String) (words : List String) (rest : List RawRecord) :
    ((config.withLog log).hand? word words rest).map (withLog · []) =
      (config.hand? word words rest).map (withLog · []) := by
  unfold hand? withLog
  dsimp only
  cases config.workers[shardOf word config.workers.length]? with
  | none => rfl
  | some worker =>
    dsimp only
    by_cases gone : worker.isGone = true
    · simp only [gone, ↓reduceIte]
      rfl
    · by_cases room : worker.queue.length < config.settings.capacity
      · simp only [gone, room, Bool.false_eq_true, ↓reduceIte]
        rfl
      · simp only [gone, room, Bool.false_eq_true, ↓reduceIte]

theorem withLog_close (error : Option SourceError) :
    (close (world.closing error) (config.withLog log)).withLog [] =
      (close world config).withLog [] := by
  cases failed : (world.close config.world).value <;> cases error <;>
    simp [close, World.closing, withLog, sayAll, say, failed]

theorem withLog_dispatch (error : Option SourceError) :
    ((config.withLog log).dispatch? (world.closing error)).map (withLog · []) =
      (config.dispatch? world).map (withLog · []) := by
  have ended : (close (world.closing error) (config.withLog log)).withLog [] =
      (close world config).withLog [] := withLog_close world config log error
  unfold dispatch?
  rw [show (config.withLog log).dispatcher = config.dispatcher from rfl,
    show (config.withLog log).halted = config.halted from rfl,
    show (config.withLog log).now = config.now from rfl]
  cases config.dispatcher with
  | polling attempt =>
    dsimp only
    by_cases halt : config.halted = true
    · rw [if_pos halt, if_pos halt]
      rfl
    · rw [if_neg halt, if_neg halt]
      exact congrArg some (withLog_receive config log attempt (world.poll config.world))
  | waiting due attempt =>
    dsimp only
    by_cases halt : config.halted = true
    · rw [if_pos halt, if_pos halt]
      rfl
    · rw [if_neg halt, if_neg halt]
      by_cases elapsed : due ≤ config.now
      · rw [if_pos elapsed, if_pos elapsed]
        exact congrArg some (withLog_receive config log attempt (world.resume config.world))
      · rw [if_neg elapsed, if_neg elapsed]
  | stranded =>
    dsimp only
    by_cases halt : config.halted = true
    · rw [if_pos halt, if_pos halt]
      rfl
    · rw [if_neg halt, if_neg halt]
  | pausing due attempt =>
    dsimp only
    by_cases halt : config.halted = true
    · rw [if_pos halt, if_pos halt]
      rfl
    · rw [if_neg halt, if_neg halt]
      by_cases elapsed : due ≤ config.now
      · rw [if_pos elapsed, if_pos elapsed]
        rfl
      · rw [if_neg elapsed, if_neg elapsed]
  | reading records =>
    cases records with
    | nil => rfl
    | cons raw rest =>
      dsimp only
      by_cases halt : config.halted = true
      · rw [if_pos halt, if_pos halt]
        rfl
      · rw [if_neg halt, if_neg halt]
        exact congrArg some (withLog_read config log raw rest)
  | handing words rest =>
    cases words with
    | nil => rfl
    | cons word words => exact withLog_hand config log word words rest
  | closing => exact congrArg some ended
  | finished => rfl
  | panicked => rfl

theorem withLog_publish (shard : Nat) (worker : Worker) (attempt : Nat) (cause : FlushCause) :
    ((config.withLog log).publish world shard worker attempt cause).withLog [] =
      (config.publish world shard worker attempt cause).withLog [] := rfl

theorem withLog_flush (shard : Nat) (worker : Worker) (cause : FlushCause) :
    ((config.withLog log).flush world shard worker cause).withLog [] =
      (config.flush world shard worker cause).withLog [] := by
  unfold flush
  cases worker.pending.isEmpty <;> rfl

theorem withLog_settle (shard attempt : Nat) (worker : Worker) (cause : FlushCause)
    (error : Option SinkError) :
    ((config.withLog log).settle shard worker attempt cause error).withLog [] =
      (config.settle shard worker attempt cause error).withLog [] := by
  cases error with
  | none => rfl
  | some error =>
    by_cases again : (error.isRetryable && config.settings.sinkRetry.allows attempt) = true
    · simp [settle, withLog, setWorker, say, again]
    · simp [settle, withLog, setWorker, say, post, again]

theorem withLog_take (shard : Nat) :
    ((config.withLog log).take? world shard).map (withLog · []) =
      (config.take? world shard).map (withLog · []) := by
  unfold take?
  rw [show (config.withLog log).workers = config.workers from rfl,
    show (config.withLog log).settings = config.settings from rfl,
    show (config.withLog log).dispatcher = config.dispatcher from rfl]
  cases config.workers[shard]? with
  | none => rfl
  | some worker =>
    dsimp only
    cases worker.activity with
    | publishing | pausing | finished | failed | panicked => rfl
    | receiving =>
      cases worker.queue with
      | nil =>
        dsimp only
        by_cases past : config.dispatcher.isGone = true
        · rw [if_pos past, if_pos past]
          exact congrArg some (withLog_flush world config log shard worker .drain)
        · rw [if_neg past, if_neg past]
      | cons word queue =>
        dsimp only
        split
        · exact congrArg some (withLog_flush world config log shard _ .full)
        · rfl

theorem withLog_tick (shard : Nat) :
    ((config.withLog log).tick? world shard).map (withLog · []) =
      (config.tick? world shard).map (withLog · []) := by
  unfold tick?
  rw [show (config.withLog log).workers = config.workers from rfl,
    show (config.withLog log).settings = config.settings from rfl,
    show (config.withLog log).now = config.now from rfl]
  cases config.workers[shard]? with
  | none => rfl
  | some worker =>
    dsimp only
    cases worker.activity with
    | publishing | pausing | finished | failed | panicked => rfl
    | receiving =>
      dsimp only
      split
      · exact congrArg some (withLog_flush world config log shard _ .tick)
      · rfl

theorem withLog_wake (shard : Nat) :
    ((config.withLog log).wake? world shard).map (withLog · []) =
      (config.wake? world shard).map (withLog · []) := by
  unfold wake?
  rw [show (config.withLog log).workers = config.workers from rfl,
    show (config.withLog log).now = config.now from rfl]
  cases config.workers[shard]? with
  | none => rfl
  | some worker =>
    dsimp only
    cases worker.activity with
    | receiving | finished | failed | panicked => rfl
    | publishing due attempt error cause =>
      dsimp only
      split
      · exact congrArg some (withLog_settle config log shard attempt worker cause error)
      · rfl
    | pausing due attempt cause =>
      dsimp only
      split
      · exact congrArg some (withLog_publish world config log shard worker attempt cause)
      · rfl

/-- A step depends neither on the log nor on what closing the source returns. -/
theorem withLog_act (error : Option SourceError) (action : Action) :
    ((config.withLog log).act (world.closing error) action).map (withLog · []) =
      (config.act world action).map (withLog · []) := by
  unfold act
  rw [show (config.withLog log).outcome = config.outcome from rfl]
  by_cases returned : config.outcome.isSome = true
  · rw [if_pos returned, if_pos returned]
  · rw [if_neg returned, if_neg returned]
    cases action with
    | request => exact withLog_request config log
    | heed => exact withLog_heed config log
    | supervise => exact withLog_supervise config log
    | dispatch => exact withLog_dispatch world config log error
    | take shard => exact withLog_take world config log shard
    | tick shard => exact withLog_tick world config log shard
    | wake shard => exact withLog_wake world config log shard

end Config

/-- Whatever closing the source returns, a run takes the same steps, and only its log may differ. -/
theorem Run.closing {world : World σ} {first config : Config σ} {history : History σ}
    (run : Run world first history config) (error : Option SourceError) :
    ∃ twin log, Run (world.closing error) first twin (config.withLog log) ∧
      twin.map Prod.snd = history.map Prod.snd := by
  induction run with
  | start => exact ⟨[], first.log, .start, rfl⟩
  | @act history before after action earlier taken ih =>
    obtain ⟨twin, log, run, same⟩ := ih
    have equal := Config.withLog_act world before log error action
    rw [taken, Option.map_some, Option.map_eq_some_iff] at equal
    obtain ⟨next, moved, erased⟩ := equal
    refine ⟨twin ++ [(before.withLog log, action)], next.log, ?_, ?_⟩
    · rw [← Config.eq_withLog_of_unlogged erased]
      exact run.act action moved
    · rw [List.map_append, List.map_append, same]
      rfl
  | pass time earlier later ih =>
    obtain ⟨twin, log, run, same⟩ := ih
    exact ⟨twin, log, run.pass time later, same⟩

end Pipeline

end WordTally
