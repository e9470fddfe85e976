import WordTally.Proofs.Pipeline.Stopping

set_option autoImplicit false

namespace WordTally.Pipeline

variable {σ : Type} {world : World σ} {config last : Config σ} {later : History σ} {shard : Nat}
  {worker : Worker}

theorem Config.isCut_received {error : SourceError} (lasting : error.isTransient = false)
    (config : Config σ) (attempt : Nat) : (config.received attempt (.failed error)).IsCut := by
  left
  simp only [received, lasting, Bool.false_and, Bool.false_eq_true, if_false]
  rfl

/-- The source is not polled again after a failure that cannot pass. -/
theorem Run.calls_of_lasting {error : SourceError} {attempt : Nat}
    (lasting : error.isTransient = false)
    (run : Run world (config.received attempt (.failed error)) later last) :
    ∀ call ∈ History.calls later, call = .close :=
  (run.of_isCut (config.isCut_received lasting attempt)).2.1

/-- A shard that has failed stays as it is and publishes nothing. -/
theorem Run.of_failed (run : Run world config later last)
    (found : config.workers[shard]? = some worker) (failed : worker.activity = .failed) :
    last.workers[shard]? = some worker ∧ last.callsOf shard = config.callsOf shard := by
  induction run with
  | start => exact ⟨found, rfl⟩
  | @act history before after action earlier taken ih =>
    obtain ⟨present, same⟩ := ih
    obtain ⟨next, traffic, moves⟩ := (Config.change_of_act taken).2.moves history present
    -- The only step of a failed shard is to stay, so its ledger does not grow.
    obtain ⟨rfl, rfl⟩ := moves.step.stay_of_failed failed
    refine ⟨moves.found, ?_⟩
    have calls := congrArg Ledger.calls moves.ledger
    rw [Ledger.add_quiet] at calls
    exact calls.trans same
  | pass time earlier ahead ih => exact ih

/-- The updates of a publish call are not offered again after a failure that cannot pass, and the
shard offers no others. -/
theorem Run.callsOf_of_lasting {error : SinkError} {attempt : Nat} {cause : FlushCause}
    (lasting : error.isRetryable = false) (found : config.workers[shard]? = some worker)
    (run : Run world (config.settle shard worker attempt cause (some error)) later last) :
    last.callsOf shard = config.callsOf shard := by
  simp only [Config.settle, lasting, Bool.false_and, Bool.false_eq_true, if_false] at run
  have here : (config.workers.set shard { worker with activity := .failed })[shard]? =
      some { worker with activity := .failed } :=
    List.getElem?_set_self (List.getElem?_eq_some_iff.mp found).1
  exact (run.of_failed here rfl).2

end WordTally.Pipeline
