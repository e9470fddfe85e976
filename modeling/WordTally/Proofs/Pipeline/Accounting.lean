import WordTally.Proofs.Pipeline.Failing
import WordTally.Proofs.Pipeline.Supervision
import WordTally.Proofs.Pipeline.Totals

set_option autoImplicit false

namespace WordTally

def Pipeline.Outcome.report? : Pipeline.Outcome → Option Pipeline.Report
  | .completed report | .failed _ report => some report
  | .panicked => none

namespace Pipeline

variable {σ : Type} {world : World σ} {settings : PipelineSettings} {seed : Tally}
  {stopAt : Option Nat} {surroundings : σ} {history : History σ} {config : Config σ}

@[simp] theorem Config.report?_verdict (config : Config σ) :
    config.verdict.report? = some config.report := by
  unfold verdict
  cases config.failure <;> rfl

theorem Run.report_eq
    (run : Run world (Config.start settings seed stopAt surroundings) history config)
    {outcome : Outcome} (result : config.outcome = some outcome) {report : Report}
    (reported : outcome.report? = some report) : report = config.report := by
  rcases (run.returned result).2.2 with ⟨_, rfl⟩ | ⟨_, rfl⟩
  · cases reported
  · rw [Config.report?_verdict] at reported
    exact (Option.some.inj reported).symm

theorem Run.report_get?
    (run : Run world (Config.start settings seed stopAt surroundings) history config)
    (word : String) :
    let applied := History.applied history (max settings.shards 1)
    config.report.tally.get? word =
      if word ∈ applied then some ((seed.get? word).getD 0 + applied.count word)
      else seed.get? word := by
  intro applied
  rw [run.report_tally fun shard inside => run.countedBy_eq inside, Tally.get?_countAll]

end Pipeline

end WordTally
