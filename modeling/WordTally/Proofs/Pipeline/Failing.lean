import WordTally.Proofs.Pipeline.Shards

set_option autoImplicit false

namespace WordTally

namespace Text

end Text

namespace Pipeline

variable {σ : Type} {world : World σ} {before after : Config σ} {action : Config.Action}
  {shard undelivered : Nat} {error : SinkError}

/-- In a step from one configuration to the next the shard gives up. -/
structure GivesUp (before after : Config σ) (shard undelivered : Nat) (error : SinkError) :
    Prop where
  logged : after.log = before.log ++ [(before.now, givingUp shard undelivered error)]
  told : after.mail = before.mail ++ [surrender shard error]

def History.GaveUp (world : World σ) (history : History σ) (shard undelivered : Nat)
    (error : SinkError) : Prop :=
  ∃ before action after, (before, action) ∈ history ∧ before.act world action = some after ∧
    GivesUp before after shard undelivered error

theorem History.GaveUp.concat {history : History σ}
    (gaveUp : History.GaveUp world history shard undelivered error)
    (last : Config σ × Config.Action) :
    History.GaveUp world (history ++ [last]) shard undelivered error := by
  obtain ⟨before, action, after, member, taken, givesUp⟩ := gaveUp
  exact ⟨before, action, after, List.mem_append_left _ member, taken, givesUp⟩

namespace Config.Change

theorem givesUp (change : Change world before action after) {former worker : Worker}
    (present : before.workers[shard]? = some former) (running : former.activity ≠ .failed)
    (found : after.workers[shard]? = some worker) (failed : worker.activity = .failed) :
    ∃ error, GivesUp before after shard worker.pending.length error := by
  cases change with
  | request | heed | hear | died | returned | intake =>
    change before.workers[shard]? = some worker at found
    rw [present] at found
    cases found
    exact absurd failed running
  | hand word words rest target handing atTarget alive room =>
    by_cases here : shardOf word before.workers.length = shard
    · rw [here, present] at atTarget
      cases atTarget
      dsimp only at found
      rw [here, List.getElem?_set_self (List.getElem?_eq_some_iff.mp present).1] at found
      cases found
      exact absurd failed running
    · dsimp only at found
      rw [List.getElem?_set_ne here, present] at found
      cases found
      exact absurd failed running
  | @work action target own next traffic mine atTarget step unsent counted world =>
    by_cases here : target = shard
    · subst here
      rw [present] at atTarget
      cases atTarget
      rw [worked, List.getElem?_set_self (List.getElem?_eq_some_iff.mp present).1] at found
      cases found
      obtain ⟨error, rfl⟩ := step.of_failing running failed
      exact ⟨error, rfl, rfl⟩
    · rw [worked, List.getElem?_set_ne here, present] at found
      cases found
      exact absurd failed running

end Config.Change

section Run

variable {settings : PipelineSettings} {tally : Tally} {stopAt : Option Nat} {surroundings : σ}
  {history : History σ} {config : Config σ}

end Run

end Pipeline

end WordTally
