import WordTally.Proofs.Pipeline.Supervision

set_option autoImplicit false

namespace WordTally

/-- No message but the last one ends the running phase. -/
theorem Lifecycle.phase_step {state : Lifecycle} {message : Message}
    (running : state.phase = .running) (halts : message.haltReason.isSome = true) :
    (state.step message).1.phase = .running := by
  obtain ⟨reason, known⟩ := Option.isSome_iff_exists.mp halts
  rw [step_of_haltReason running known, phase_halt, running]

namespace Pipeline

variable {σ : Type} {world : World σ} {settings : PipelineSettings} {seed : Tally}
  {stopAt : Option Nat} {surroundings : σ} {history : History σ} {config : Config σ}

/-- The phase that a run reaches only when it returns and none of its tasks has died. -/
def Config.finalPhase (config : Config σ) : List Phase :=
  match config.outcome with
  | none | some .panicked => []
  | some (.completed _) | some (.failed _ _) => [.stopped]

theorem Config.finalPhase_of_open (open_ : config.outcome = none) : config.finalPhase = [] := by
  simp only [finalPhase, open_]

theorem Config.finalPhase_verdict (config base : Config σ) :
    ({ config with outcome := some base.verdict } : Config σ).finalPhase = [.stopped] := by
  unfold finalPhase verdict
  cases base.failure <;> rfl

theorem Config.finalPhase_eq (config : Config σ) :
    config.finalPhase = [.stopped] ↔
      ∃ outcome, config.outcome = some outcome ∧ outcome ≠ .panicked := by
  unfold finalPhase
  cases result : config.outcome with
  | none => simp
  | some outcome => cases outcome <;> simp

/-- The run was created, and then it is running, once or more. -/
def Config.hasBegun (config : Config σ) : Prop :=
  ∃ times, config.phases =
    .created :: (List.replicate (times + 1) .running ++ config.finalPhase)

theorem Config.hasBegun.again {before after : Config σ} (begun : before.hasBegun)
    (open_ : before.outcome = none) (running : before.lifecycle.phase = .running)
    {message : Message} (halts : message.haltReason.isSome = true) (still : after.outcome = none)
    (shown : after.phases = before.phases ++ [(before.lifecycle.step message).1.phase]) :
    after.hasBegun := by
  obtain ⟨times, seen⟩ := begun
  rw [finalPhase_of_open open_, List.append_nil] at seen
  refine ⟨times + 1, ?_⟩
  rw [shown, finalPhase_of_open still, Lifecycle.phase_step running halts, seen,
    List.cons_append, ← List.replicate_succ', List.append_nil]

/-- Every step of a run that has not returned shows that it is running, or that it has stopped. -/
theorem Config.hasBegun.change {before after : Config σ} {action : Config.Action}
    (begun : before.hasBegun) (open_ : before.outcome = none)
    (running : before.lifecycle.phase = .running)
    (halting : ∀ message ∈ before.mail, message.haltReason.isSome = true)
    (known : before.mail = [] → before.allGone = true → before.hasDied = false →
      before.lifecycle.stopReason.isSome = true)
    (change : Change world before action after) : after.hasBegun := by
  have same (later : Config σ) (shown : later.phases = before.phases)
      (silent : later.finalPhase = []) : later.hasBegun := by
    obtain ⟨times, seen⟩ := begun
    refine ⟨times, ?_⟩
    rw [shown, seen, silent, finalPhase_of_open open_]
  cases change with
  | request | intake | hand | work => exact same _ rfl (finalPhase_of_open open_)
  | heed lines => exact begun.again open_ running rfl open_ rfl
  | hear message mail lines first =>
    exact begun.again open_ running (halting message (by rw [first]; exact List.mem_cons_self))
      open_ rfl
  | died => exact same _ rfl rfl
  | returned lines silent gone alive =>
    obtain ⟨times, seen⟩ := begun
    refine ⟨times, ?_⟩
    rw [finalPhase_verdict]
    change before.phases ++ [(before.lifecycle.step .drained).1.phase] = _
    rw [Lifecycle.step_drained running (known silent gone alive), seen,
      finalPhase_of_open open_, List.append_nil, List.cons_append]

theorem Config.hasBegun.last_iff (begun : config.hasBegun) :
    config.phases.getLast? = some .stopped ↔
      ∃ outcome, config.outcome = some outcome ∧ outcome ≠ .panicked := by
  obtain ⟨times, shown⟩ := begun
  rw [← finalPhase_eq, shown]
  have last : config.finalPhase = [] ∨ config.finalPhase = [.stopped] := by
    unfold finalPhase
    split
    · exact .inl rfl
    · exact .inl rfl
    · exact .inr rfl
    · exact .inr rfl
  rcases last with unfinished | stopped
  · rw [unfinished, List.append_nil, List.replicate_succ', ← List.cons_append,
      List.getLast?_concat]
    simp
  · rw [stopped, ← List.cons_append, List.getLast?_concat]
    simp

theorem Run.hasBegun
    (run : Run world (Config.start settings seed stopAt surroundings) history config) :
    config.hasBegun := by
  induction run with
  | start => exact ⟨0, rfl⟩
  | act action earlier taken ih =>
    obtain ⟨open_, change⟩ := Config.change_of_act taken
    have inv := earlier.supervisionInv
    refine ih.change open_ (inv.running open_) inv.mail ?_ change
    intro silent gone alive
    exact inv.known_of_gone silent gone (Config.dispatcher_ne_of_alive alive)
  | pass time earlier later ih => exact ih

/-- The phases that an observer of a run sees: created, then running, and never back. The last one
is that the run has stopped exactly when it has returned and no task has died in it. -/
theorem Run.phases_in_order
    (run : Run world (Config.start settings seed stopAt surroundings) history config) :
    (∃ times, config.phases =
        .created :: (List.replicate (times + 1) .running ++ config.finalPhase)) ∧
      (config.phases.getLast? = some .stopped ↔
        ∃ outcome, config.outcome = some outcome ∧ outcome ≠ .panicked) :=
  ⟨run.hasBegun, run.hasBegun.last_iff⟩

/-- A source that loses the dispatcher at once. -/
def lostScript : Script := ⟨[.answer .panicked], none, [], 0, 0⟩

def lostRun : Config Script :=
  run Script.world 1000 .standard Tally.empty none lostScript

/-- This run has returned, and its observers still see it running. -/
theorem lostRun_never_stopped :
    ∃ history, Run Script.world (Config.start .standard Tally.empty none lostScript) history
        lostRun ∧
      lostRun.outcome = some .panicked ∧ lostRun.phases = [.created, .running] ∧
      lostRun.phases.getLast? ≠ some .stopped := by
  obtain ⟨history, lost⟩ := exists_history_of_run Script.world 1000 .standard Tally.empty none
    lostScript
  have result : lostRun.outcome = some .panicked := by decide +kernel
  refine ⟨history, lost, result, by decide +kernel, ?_⟩
  intro stopped
  obtain ⟨outcome, same, alive⟩ := lost.phases_in_order.2.mp stopped
  change lostRun.outcome = some outcome at same
  rw [result] at same
  exact alive (Option.some.inj same).symm

end Pipeline

end WordTally
