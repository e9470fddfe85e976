import WordTally.Proofs.Pipeline.Supervision
import WordTally.Proofs.Pipeline.Totals

set_option autoImplicit false

namespace WordTally.Pipeline

variable {σ : Type} {world : World σ} {settings : PipelineSettings} {seed : Tally}
  {stopAt : Option Nat} {surroundings : σ} {history : History σ} {config : Config σ}

theorem Config.verdict_completed {report : Report} (good : config.verdict = .completed report) :
    config.failure = none ∧ report = config.report := by
  unfold verdict at good
  split at good
  · cases good
  · rename_i none
    exact ⟨none, (Outcome.completed.inj good).symm⟩

/-- A run that completed has no failed shard, since the supervisor would have heard of it. -/
theorem Run.not_failed_of_completed
    (run : Run world (Config.start settings seed stopAt surroundings) history config)
    {report : Report} (result : config.outcome = some (.completed report)) :
    ¬ config.hasFailed := by
  intro failed
  obtain ⟨_, silent, ends⟩ := run.returned result
  rcases ends with ⟨_, panicked⟩ | ⟨_, verdict⟩
  · cases panicked
  · have clean := (Config.verdict_completed verdict.symm).1
    rcases run.supervisionInv.failed failed with blamed | ⟨message, member, _⟩
    · rw [clean] at blamed
      cases blamed
    · rw [silent] at member
      cases member

/-- Every word sent in a completed run is counted, and its update accepted. -/
theorem Run.counted_of_completed
    (run : Run world (Config.start settings seed stopAt surroundings) history config)
    {report : Report} (result : config.outcome = some (.completed report)) {shard : Nat}
    (inside : shard < max settings.shards 1) :
    History.countedBy history shard = History.sentTo history shard ∧
      (accepted (config.callsOf shard)).length = (History.sentTo history shard).length := by
  rcases run.failed_or_delivered (run.returned result).1 inside with failed | delivered
  · exact absurd ⟨shard, failed⟩ (run.not_failed_of_completed result)
  · exact delivered

/-- When a run completes, the words it dispatched are those of the records it read. -/
theorem Run.dispatched_of_completed
    (run : Run world (Config.start settings seed stopAt surroundings) history config)
    {report : Report} (result : config.outcome = some (.completed report)) :
    History.dispatched history =
      ((History.records world history).take config.counters.recordsRead).flatMap
        RawRecord.words := by
  obtain ⟨gone, _, ends⟩ := run.returned result
  have ended : config.dispatcher.left? = none := by
    rcases ends with ⟨_, panicked⟩ | ⟨alive, _⟩
    · cases panicked
    · exact Dispatcher.left?_of_gone (Bool.and_eq_true_iff.mp gone).1 alive
  rcases run.intakeInv.ended ended with whole | ⟨cut, _⟩
  · exact whole
  · exact absurd cut (run.not_failed_of_completed result)

/-- The report of a completed run is that of one counter alone. Of the records that the source gave
the run has read a first part; it counted the words of just these records, published each update,
and its tally is what the seed becomes when these words are counted one after the other. If intake
ended because the source did, then all its records were read. -/
theorem Run.completed_refines
    (run : Run world (Config.start settings seed stopAt surroundings) history config)
    {report : Report} (result : config.outcome = some (.completed report)) :
    let records := (History.records world history).take report.recordsRead
    let words := records.flatMap RawRecord.words
    report.recordsRead ≤ (History.records world history).length ∧
      report.recordsSkipped = (records.filter RawRecord.isRejected).length ∧
      report.tokensCounted = words.length ∧
      report.updatesEmitted = words.length ∧
      report.tally = (seed.countAll words).2 ∧
      (report.stopReason = .sourceExhausted →
        records = History.records world history ∧
          (History.answers world history).getLast? = some .endOfStream) := by
  intro records words
  obtain ⟨gone, silent, ends⟩ := run.returned result
  have verdict : config.verdict = .completed report := by
    rcases ends with ⟨_, panicked⟩ | ⟨_, verdict⟩
    · cases panicked
    · exact verdict.symm
  obtain ⟨_, rfl⟩ := Config.verdict_completed verdict
  have dispatched : History.dispatched history = words := run.dispatched_of_completed result
  have tokens : config.counters.tokensCounted = words.length := by
    rw [← dispatched, run.intakeInv.tokens]
  refine ⟨run.intakeInv.read, ?_, tokens, ?_, ?_, ?_⟩
  · rw [← List.countP_eq_length_filter]
    exact run.intakeInv.skipped
  · rw [← run.sum_accepted fun _ _ => Config.isGone_of_allGone gone, ← tokens, ← run.sum_sent]
    congr 1
    apply List.map_congr_left
    intro shard inside
    exact (run.counted_of_completed result (List.mem_range.mp inside)).2
  · refine run.report_tally fun shard inside => ?_
    rw [(run.counted_of_completed result inside).1, run.sentTo_eq, dispatched]
  · intro exhausted
    have known : config.lifecycle.stopReason = some .sourceExhausted := by
      change config.lifecycle.stopReason.getD .requested = .sourceExhausted at exhausted
      cases reason : config.lifecycle.stopReason with
      | none =>
        rw [reason] at exhausted
        cases exhausted
      | some first =>
        rw [reason] at exhausted
        exact congrArg some exhausted
    obtain ⟨_, read, last⟩ := run.supervisionInv.exhausted (.inl known)
    exact ⟨List.take_of_length_le (Nat.le_of_eq read.symm), last⟩

theorem seaRun_completed :
    ∃ history, Run Script.world
        (Config.start narrow fiveSeas none (seaScript [⟨1, some (.transient "busy")⟩])) history
        (seaRun [⟨1, some (.transient "busy")⟩]) ∧
      let words := (History.records Script.world history).flatMap RawRecord.words
      words.length = 5 ∧
        (fiveSeas.countAll words).2 = Tally.ofList [("red", 2), ("sea", 7), ("sun", 1)] := by
  obtain ⟨history, sea⟩ := exists_history_of_run Script.world 1000 narrow fiveSeas none
    (seaScript [⟨1, some (.transient "busy")⟩])
  have result : (seaRun [⟨1, some (.transient "busy")⟩]).outcome = some (.completed
      ⟨3, 1, 5, 5, .sourceExhausted, Tally.ofList [("red", 2), ("sea", 7), ("sun", 1)]⟩) := by
    decide +kernel
  obtain ⟨_, _, tokens, _, tally, whole⟩ := sea.completed_refines result
  rw [(whole rfl).1] at tokens tally
  exact ⟨history, sea, tokens.symm, tally.symm⟩

end WordTally.Pipeline
