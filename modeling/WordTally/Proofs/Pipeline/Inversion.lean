import WordTally.Proofs.Pipeline.Changes

set_option autoImplicit false

namespace WordTally.Pipeline.Config

variable {σ : Type} {world : World σ} {before after : Config σ}

theorem setWorker_eq (config : Config σ) (shard : Nat) (worker : Worker) (counted : List String) :
    config.setWorker shard worker =
      config.worked shard worker ⟨[], counted, [], [], []⟩ config.world := by
  simp only [setWorker, worked, List.map_nil, List.append_nil]

theorem publish_eq (world : World σ) (config : Config σ) (shard : Nat) (worker : Worker)
    (attempt : Nat) (cause : FlushCause) (counted : List String) :
    ∃ delivery lines next, config.publish world shard worker attempt cause =
      config.worked shard (worker.calling config.now delivery attempt cause)
        (.calling counted (worker.call config.now shard delivery) lines) next := by
  refine ⟨(world.publish shard worker.pending config.world).value,
    (world.publish shard worker.pending config.world).log,
    (world.publish shard worker.pending config.world).world, ?_⟩
  simp only [publish, worked, Traffic.calling, Worker.calling, Worker.call, sayAll, setWorker,
    List.append_nil]

theorem flush_eq_setWorker (world : World σ) (config : Config σ) (shard : Nat) (worker : Worker)
    (cause : FlushCause) (nothing : worker.pending = []) :
    config.flush world shard worker cause = config.setWorker shard (worker.rest cause) := by
  simp only [flush, nothing, List.isEmpty_nil, ↓reduceIte]

theorem flush_eq_publish (world : World σ) (config : Config σ) (shard : Nat) (worker : Worker)
    (cause : FlushCause) (something : worker.pending ≠ []) :
    config.flush world shard worker cause = config.publish world shard worker 0 cause := by
  simp only [flush, List.isEmpty_iff, something, ↓reduceIte]

theorem take_change {shard : Nat} (taken : before.take? world shard = some after) :
    Change world before (.take shard) after := by
  unfold take? at taken
  split at taken
  · cases taken
  · rename_i worker found
    split at taken
    · rename_i word queue idle front
      have counted : (before.counted? (.take shard)).toList = [word].map (Prod.mk shard) := by
        simp [counted?, found, front]
      have pending : ({ worker with queue := queue }.apply word).pending.length =
          worker.pending.length + 1 := by
        simp [Worker.apply]
      dsimp only at taken
      rw [pending] at taken
      split at taken
      · rename_i full
        have something : ({ worker with queue := queue }.apply word).pending ≠ [] := by
          intro empty
          rw [empty] at pending
          cases pending
        obtain ⟨delivery, lines, next, called⟩ := publish_eq world before shard
          ({ worker with queue := queue }.apply word) 0 .full [word]
        cases taken
        rw [flush_eq_publish world before shard _ .full something, called]
        exact .work rfl found (.filled word queue delivery lines idle front full) rfl counted next
      · rename_i small
        cases taken
        rw [setWorker_eq before shard _ [word]]
        exact .work rfl found (.counted word queue idle front (by omega)) rfl counted _
    · rename_i idle empty
      have counted : (before.counted? (.take shard)).toList = [].map (Prod.mk shard) := by
        simp [counted?, found, empty]
      split at taken
      · rename_i elapsed
        cases taken
        by_cases nothing : worker.pending = []
        · rw [flush_eq_setWorker world before shard _ .drain nothing,
            setWorker_eq before shard _ []]
          exact .work rfl found (.left idle empty elapsed nothing) rfl counted _
        · obtain ⟨delivery, lines, next, called⟩ := publish_eq world before shard worker 0 .drain []
          rw [flush_eq_publish world before shard _ .drain nothing, called]
          exact .work rfl found (.drained delivery lines idle empty elapsed nothing) rfl counted
            next
      · cases taken
    · cases taken

theorem tick_change {shard : Nat} (taken : before.tick? world shard = some after) :
    Change world before (.tick shard) after := by
  unfold tick? at taken
  split at taken
  · cases taken
  · rename_i worker found
    split at taken
    · rename_i idle
      split at taken
      · rename_i due
        cases taken
        let ticked := worker.ticked before.now before.settings.commitMillis
        change Change world before (.tick shard) (before.flush world shard ticked .tick)
        by_cases nothing : worker.pending = []
        · rw [flush_eq_setWorker world before shard ticked .tick nothing,
            setWorker_eq before shard _ []]
          exact .work rfl found (.ticked idle due nothing) rfl rfl _
        · obtain ⟨delivery, lines, next, called⟩ := publish_eq world before shard ticked 0 .tick []
          rw [flush_eq_publish world before shard ticked .tick nothing, called]
          exact .work rfl found (.flushed delivery lines idle due nothing) rfl rfl next
      · cases taken
    · cases taken

theorem settle_change {shard due attempt : Nat} {worker : Worker} {error : Option SinkError}
    {cause : FlushCause} (found : before.workers[shard]? = some worker)
    (calling : worker.activity = .publishing due attempt error cause) (elapsed : due ≤ before.now) :
    Change world before (.wake shard) (before.settle shard worker attempt cause error) := by
  cases error with
  | none =>
    have same : before.settle shard worker attempt cause none =
        before.worked shard (worker.committed cause)
          ⟨[], [], [], [], [.debug ("shard " ++ toString shard ++ " committed " ++
            toString worker.pending.length ++ " updates")]⟩ before.world := by
      simp only [settle, worked, Worker.committed, say, setWorker, List.append_nil, List.map_cons,
        List.map_nil]
    rw [same]
    exact .work rfl found (.committed due attempt cause _ calling elapsed) rfl rfl _
  | some error =>
    by_cases retried : (error.isRetryable && before.settings.sinkRetry.allows attempt) = true
    · simp only [settle, retried, ↓reduceIte, say]
      have step := @ShardStep.paused σ before shard worker due attempt error cause
        [.warn ("shard " ++ toString shard ++ " publish failed (attempt " ++
          toString (attempt + 1) ++ "/" ++ toString before.settings.sinkRetry.tries ++
          "), retrying in " ++ (before.settings.sinkRetry.backoff attempt).text ++ ": " ++
          error.message)] calling elapsed retried
      have change : Change world before (.wake shard) _ :=
        .work rfl found step rfl rfl before.world
      simpa only [worked, setWorker, List.append_nil, List.map_cons, List.map_nil] using change
    · have final := Bool.eq_false_iff.mpr retried
      have step :=
        @ShardStep.failed σ before shard worker due attempt error cause calling elapsed final
      have change : Change world before (.wake shard) _ :=
        .work rfl found step rfl rfl before.world
      simpa only [settle, final, Bool.false_eq_true, ↓reduceIte, say, post, givingUp, surrender,
        worked, setWorker, List.append_nil, List.map_cons, List.map_nil] using change

theorem wake_change {shard : Nat} (taken : before.wake? world shard = some after) :
    Change world before (.wake shard) after := by
  unfold wake? at taken
  split at taken
  · cases taken
  · rename_i worker found
    split at taken
    · rename_i due attempt error cause calling
      split at taken
      · rename_i elapsed
        cases taken
        exact settle_change found calling elapsed
      · cases taken
    · rename_i due attempt cause resting
      split at taken
      · rename_i elapsed
        obtain ⟨delivery, lines, next, called⟩ :=
          publish_eq world before shard worker attempt cause []
        cases taken
        rw [called]
        exact .work rfl found (.again due attempt cause delivery lines resting elapsed) rfl rfl next
      · cases taken
    · cases taken

theorem received_batch (config : Config σ) (attempt : Nat) (records : List RawRecord)
    (next : σ) (lines : List LogLine) :
    config.receive attempt ⟨.batch records, lines, next⟩ =
      config.moved (some (.batch records)) (.reading records) config.counters [] next lines := by
  simp [receive, received, moved, sayAll, Poll.interrupts]

theorem received_end (config : Config σ) (attempt : Nat) (next : σ) (lines : List LogLine) :
    config.receive attempt ⟨.endOfStream, lines, next⟩ =
      config.moved (some .endOfStream) .closing config.counters [.sourceExhausted] next
        (lines ++ [.info ("source exhausted after " ++
          toString config.counters.recordsRead ++ " records")]) := by
  simp [receive, received, moved, sayAll, say, post, Poll.interrupts]

theorem received_retry (config : Config σ) (attempt : Nat) (error : SourceError) (next : σ)
    (lines : List LogLine)
    (again : (error.isTransient && config.settings.sourceRetry.allows attempt) = true) :
    config.receive attempt ⟨.failed error, lines, next⟩ =
      config.moved (some (.failed error))
        (.pausing (config.now + (config.settings.sourceRetry.backoff attempt).millis)
          (attempt + 1)) config.counters [] next
        (lines ++ [.warn ("source poll failed (attempt " ++ toString (attempt + 1) ++ "/" ++
          toString config.settings.sourceRetry.tries ++ "), retrying in " ++
          (config.settings.sourceRetry.backoff attempt).text ++ ": " ++ error.message)]) := by
  simp [receive, received, moved, sayAll, say, Poll.interrupts, again]

theorem received_failure (config : Config σ) (attempt : Nat) (error : SourceError) (next : σ)
    (lines : List LogLine)
    (final : (error.isTransient && config.settings.sourceRetry.allows attempt) = false) :
    config.receive attempt ⟨.failed error, lines, next⟩ =
      config.moved (some (.failed error)) .closing config.counters [.sourceFailed error.message]
        next (lines ++ [.error ("source failed: " ++ error.message)]) := by
  simp [receive, received, moved, sayAll, say, post, Poll.interrupts, final]

theorem receive_change {attempt : Nat} {reply : Reply σ Poll}
    (asking : before.dispatcher.asking? = some attempt) (open_ : before.halted = false)
    (asked : before.answer? world .dispatch = some reply.value)
    (unhanded : before.handed? .dispatch = none) :
    Change world before .dispatch (before.receive attempt reply) := by
  obtain ⟨answer, lines, next⟩ := reply
  cases answer with
  | batch records =>
    rw [received_batch]
    exact .intake (.batch attempt records asking open_) asked unhanded next lines
  | endOfStream =>
    rw [received_end]
    exact .intake (.ended attempt asking open_) asked unhanded next _
  | failed error =>
    by_cases again : (error.isTransient && before.settings.sourceRetry.allows attempt) = true
    · rw [received_retry before attempt error next lines again]
      exact .intake (.retried attempt error asking open_ again) asked unhanded next _
    · have final := Bool.eq_false_iff.mpr again
      rw [received_failure before attempt error next lines final]
      exact .intake (.failed attempt error asking open_ final) asked unhanded next _
  | wait millis =>
    have same : before.receive attempt ⟨.wait millis, lines, next⟩ =
        before.moved (some (.wait millis)) (.waiting (before.now + millis) attempt)
          before.counters [] next lines := by
      simp [receive, received, moved, sayAll, Poll.interrupts]
    rw [same]
    exact .intake (.awaited attempt millis asking open_) asked unhanded next lines
  | interrupted =>
    have same : before.receive attempt ⟨.interrupted, lines, next⟩ =
        before.moved (some .interrupted) .stranded before.counters [] next lines := by
      simp [receive, received, moved, sayAll, Poll.interrupts]
    rw [same]
    exact .intake (.stranded attempt asking open_) asked unhanded next lines
  | panicked =>
    have same : before.receive attempt ⟨.panicked, lines, next⟩ =
        before.moved (some .panicked) .panicked before.counters [] next lines := by
      simp [receive, received, moved, sayAll, Poll.interrupts]
    rw [same]
    exact .intake (.died attempt asking open_) asked unhanded next lines

/-- Without an answer of the source only the dispatcher itself and its counters change. -/
theorem moved_none (config : Config σ) (dispatcher : Dispatcher) (counters : Counters)
    (lines : List LogLine) :
    config.moved none dispatcher counters [] config.world lines =
      { config.sayAll lines with dispatcher := dispatcher, counters := counters } := by
  simp [moved, sayAll]

theorem read_change {raw : RawRecord} {rest : List RawRecord}
    (reading : before.dispatcher = .reading (raw :: rest)) (open_ : before.halted = false) :
    Change world before .dispatch (before.read raw rest) := by
  have asked : before.answer? world .dispatch = none := by simp [answer?, open_, reading]
  have unhanded : before.handed? .dispatch = none := by simp [handed?, reading]
  cases decoded : raw.decode with
  | ok record =>
    have step := IntakeStep.read raw rest record reading open_ decoded
    have change := Change.intake step asked unhanded before.world []
    simpa [moved_none, sayAll, read, decoded] using change
  | error mismatch =>
    have step := IntakeStep.skipped raw rest mismatch reading open_ decoded
    have change := Change.intake step asked unhanded before.world
      [.warn ("skipping record: " ++ mismatch.message)]
    simpa [moved_none, sayAll, say, read, decoded] using change

theorem hand_change {word : String} {words : List String} {rest : List RawRecord}
    (handing : before.dispatcher = .handing (word :: words) rest)
    (taken : before.hand? word words rest = some after) :
    Change world before .dispatch after := by
  have asked : before.answer? world .dispatch = none := by simp [answer?, handing]
  unfold hand? at taken
  dsimp only at taken
  split at taken
  · rename_i missing
    cases taken
    have unhanded : before.handed? .dispatch = none := by simp [handed?, handing, missing]
    have step := IntakeStep.refused word words rest handing (by simp [missing])
    have change := Change.intake step asked unhanded before.world []
    simpa [moved_none, sayAll] using change
  · rename_i worker found
    split at taken
    · rename_i gone
      cases taken
      have unhanded : before.handed? .dispatch = none := by simp [handed?, handing, found, gone]
      have step := IntakeStep.refused word words rest handing (by simp [found, gone])
      have change := Change.intake step asked unhanded before.world
        [.debug ("shard " ++ toString (shardOf word before.workers.length) ++
          " is gone; stopping intake")]
      simpa [moved_none, sayAll, say] using change
    · rename_i alive
      split at taken
      · rename_i room
        cases taken
        exact .hand word words rest worker handing found (Bool.eq_false_iff.mpr alive) room
      · cases taken

theorem close_change (closing : before.dispatcher = .closing) :
    Change world before .dispatch (before.close world) := by
  have asked : before.answer? world .dispatch = none := by simp [answer?, closing]
  have unhanded : before.handed? .dispatch = none := by simp [handed?, closing]
  have step := IntakeStep.closed closing
  cases failed : (world.close before.world).value with
  | none =>
    have change := Change.intake step asked unhanded (world.close before.world).world
      (world.close before.world).log
    simpa [moved, close, failed, sayAll] using change
  | some error =>
    have change := Change.intake step asked unhanded (world.close before.world).world
      ((world.close before.world).log ++
        [.warn ("failed to close source: " ++ error.message)])
    simpa [moved, close, failed, sayAll, say] using change

/-- A step of the dispatcher that asks nobody and says nothing. -/
theorem quiet_change {dispatcher : Dispatcher}
    (step : IntakeStep before none dispatcher before.counters [])
    (asked : before.answer? world .dispatch = none)
    (unhanded : before.handed? .dispatch = none) :
    Change world before .dispatch { before with dispatcher := dispatcher } := by
  have change := Change.intake step asked unhanded before.world []
  simpa [moved_none, sayAll] using change

theorem halt_change (halt : before.halted = true) (heeds : before.dispatcher.heeds = true)
    (unhanded : before.handed? .dispatch = none) :
    Change world before .dispatch { before with dispatcher := .closing } :=
  quiet_change (.halted halt heeds) (by simp [answer?, halt]) unhanded

theorem dispatch_change (taken : before.dispatch? world = some after) :
    Change world before .dispatch after := by
  unfold dispatch? at taken
  dsimp only at taken
  split at taken
  · rename_i attempt polling
    have unhanded : before.handed? .dispatch = none := by simp [handed?, polling]
    split at taken
    · rename_i halt
      cases taken
      exact halt_change halt (by simp [polling, Dispatcher.heeds]) unhanded
    · rename_i open_
      cases taken
      exact receive_change (by simp [polling, Dispatcher.asking?]) (Bool.eq_false_iff.mpr open_)
        (by simp [answer?, open_, polling]) unhanded
  · rename_i due attempt waiting
    have unhanded : before.handed? .dispatch = none := by simp [handed?, waiting]
    split at taken
    · rename_i halt
      cases taken
      exact halt_change halt (by simp [waiting, Dispatcher.heeds]) unhanded
    · rename_i open_
      split at taken
      · cases taken
        exact receive_change (by simp [waiting, Dispatcher.asking?])
          (Bool.eq_false_iff.mpr open_) (by simp [answer?, open_, waiting]) unhanded
      · cases taken
  · rename_i stranded
    split at taken
    · rename_i halt
      cases taken
      exact halt_change halt (by simp [stranded, Dispatcher.heeds]) (by simp [handed?, stranded])
    · cases taken
  · rename_i due attempt resting
    have unhanded : before.handed? .dispatch = none := by simp [handed?, resting]
    split at taken
    · rename_i halt
      cases taken
      exact halt_change halt (by simp [resting, Dispatcher.heeds]) unhanded
    · rename_i open_
      split at taken
      · rename_i elapsed
        cases taken
        exact quiet_change (.resumed due attempt resting (Bool.eq_false_iff.mpr open_) elapsed)
          (by simp [answer?, resting]) unhanded
      · cases taken
  · rename_i reading
    cases taken
    exact quiet_change (.emptied reading) (by simp [answer?, reading]) (by simp [handed?, reading])
  · rename_i raw rest reading
    split at taken
    · rename_i halt
      cases taken
      exact halt_change halt (by simp [reading, Dispatcher.heeds]) (by simp [handed?, reading])
    · rename_i open_
      cases taken
      exact read_change reading (Bool.eq_false_iff.mpr open_)
  · rename_i rest handing
    cases taken
    exact quiet_change (.handed rest handing) (by simp [answer?, handing])
      (by simp [handed?, handing])
  · rename_i word words rest handing
    exact hand_change handing taken
  · rename_i closing
    cases taken
    exact close_change closing
  · cases taken
  · cases taken

theorem foldl_perform (config : Config σ) (effects : List Effect) :
    ∃ lines, effects.foldl perform config =
      { config with
        halted := config.halted || effects.contains .haltIntake
        failure := config.failure.or (effects.findSome? Effect.failure?)
        log := config.log ++ lines } := by
  induction effects generalizing config with
  | nil => exact ⟨[], by simp⟩
  | cons effect rest ih =>
    obtain ⟨lines, same⟩ := ih (config.perform effect)
    rw [List.foldl_cons, same]
    cases effect with
    | spawnWorkers => exact ⟨lines, by simp [perform, List.findSome?_cons, Effect.failure?]⟩
    | haltIntake => exact ⟨lines, by simp [perform, List.findSome?_cons, Effect.failure?]⟩
    | reportFailure reason =>
      refine ⟨(config.now, .error ("pipeline failure: " ++ reason.text)) :: lines, ?_⟩
      simp [perform, say, List.findSome?_cons, Effect.failure?]
    | releaseResources =>
      obtain ⟨line, told⟩ : ∃ line, config.perform .releaseResources = config.say line := ⟨_, rfl⟩
      rw [told]
      exact ⟨(config.now, line) :: lines, by simp [say, List.findSome?_cons, Effect.failure?]⟩

theorem deliver_eq (config : Config σ) (message : Message) :
    ∃ lines, config.deliver message = config.delivered message lines := by
  obtain ⟨lines, same⟩ := foldl_perform
    { config with lifecycle := (config.lifecycle.step message).1 }
    (config.lifecycle.step message).2
  exact ⟨lines, by simp only [deliver, same, delivered]⟩

theorem heed_change (taken : before.heed? = some after) : Change world before .heed after := by
  unfold heed? at taken
  split at taken
  · rename_i requested
    simp only [Bool.and_eq_true, Bool.not_eq_true'] at requested
    cases taken
    obtain ⟨lines, same⟩ := deliver_eq ({ before with stopSeen := true }.say
      (.info "stop requested; finishing in-flight record")) .stopRequested
    have change := @Change.heed σ world before
      ((before.now, .info "stop requested; finishing in-flight record") :: lines)
      requested.1 requested.2
    rw [same]
    simpa only [delivered, say, List.append_assoc, List.singleton_append] using change
  · cases taken

theorem conclude_change (silent : before.mail = []) (gone : before.allGone = true) :
    Change world before .supervise before.conclude := by
  unfold conclude
  split
  · rename_i lost
    exact .died silent gone lost
  · rename_i alive
    obtain ⟨lines, same⟩ := deliver_eq before .drained
    rw [same]
    exact .returned lines silent gone (Bool.eq_false_iff.mpr alive)

theorem supervise_change (taken : before.supervise? = some after) :
    Change world before .supervise after := by
  unfold supervise? at taken
  split at taken
  · rename_i message mail first
    cases taken
    obtain ⟨lines, same⟩ := deliver_eq { before with mail := mail } message
    rw [same]
    exact .hear message mail lines first
  · rename_i silent
    split at taken
    · rename_i gone
      cases taken
      exact conclude_change silent gone
    · cases taken

theorem request_change (taken : before.request? = some after) :
    Change world before .request after := by
  unfold request? at taken
  split at taken
  · rename_i time planned
    split at taken
    · rename_i due
      cases taken
      simp only [Bool.and_eq_true, decide_eq_true_eq, Bool.not_eq_true'] at due
      exact .request time planned due.1 due.2
    · cases taken
  · cases taken

theorem change_of_act {action : Action} (taken : before.act world action = some after) :
    before.outcome = none ∧ Change world before action after := by
  unfold act at taken
  split at taken
  · cases taken
  · rename_i running
    refine ⟨by simpa using running, ?_⟩
    cases action with
    | request => exact request_change taken
    | heed => exact heed_change taken
    | supervise => exact supervise_change taken
    | dispatch => exact dispatch_change taken
    | take shard => exact take_change taken
    | tick shard => exact tick_change taken
    | wake shard => exact wake_change taken

end WordTally.Pipeline.Config
