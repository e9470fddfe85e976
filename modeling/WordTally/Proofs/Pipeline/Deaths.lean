import WordTally.Proofs.Pipeline.Phases
import WordTally.Proofs.Pipeline.Returning

/-
Runs in which workers die. A worker that dies tells nobody: its queue is closed, so intake ends at
the next word for its shard, and the others go on to their ends. Such a run returns like any other,
but it has nothing to tell, and its observers never see it stop. So whatever is known of the reports
of runs without deaths is known of every report.
-/

set_option autoImplicit false

namespace WordTally.Pipeline

variable {σ : Type} {world : World σ} {before after : Config σ}

/-- What a death leaves: all of the worker, but it does nothing more. -/
theorem Config.of_die {shard : Nat} (lost : before.die? shard = some after) :
    before.outcome = none ∧ ∃ worker, before.workers[shard]? = some worker ∧
      worker.isGone = false ∧
      after = before.setWorker shard { worker with activity := .panicked } := by
  unfold die? at lost
  split at lost
  · cases lost
  · rename_i worker found
    split at lost
    · cases lost
    · rename_i able
      cases lost
      simp only [Bool.or_eq_true, not_or, Bool.not_eq_true, Option.isSome_eq_false_iff,
        Option.isNone_iff_eq_none] at able
      exact ⟨able.1, worker, found, able.2, rfl⟩

/-- A run so far in which workers may have died at any moment. -/
inductive FaultyRun (world : World σ) (first : Config σ) : History σ → Config σ → Prop where
  | start : FaultyRun world first [] first
  | act {history : History σ} {before after : Config σ} (action : Config.Action)
      (earlier : FaultyRun world first history before)
      (taken : before.act world action = some after) :
      FaultyRun world first (history ++ [(before, action)]) after
  | pass {history : History σ} {config : Config σ} (time : Nat)
      (earlier : FaultyRun world first history config)
      (later : config.now ≤ time) :
      FaultyRun world first history { config with now := time }
  | die {history : History σ} {before after : Config σ} (shard : Nat)
      (earlier : FaultyRun world first history before)
      (lost : before.die? shard = some after) :
      FaultyRun world first history after

section

variable {first config : Config σ} {history : History σ}

theorem FaultyRun.of_run (run : Run world first history config) :
    FaultyRun world first history config := by
  induction run with
  | start => exact .start
  | act action earlier taken ih => exact .act action ih taken
  | pass time earlier later ih => exact .pass time ih later

theorem FaultyRun.of_step (run : FaultyRun world first history config)
    (step : Config.Step world config after) : ∃ later, FaultyRun world first later after := by
  cases step with
  | act action taken => exact ⟨_, run.act action taken⟩
  | advance taken =>
    obtain ⟨_, _, time, later, _, rfl⟩ := Config.of_advance taken
    exact ⟨history, run.pass time (Nat.le_of_lt later)⟩

theorem FaultyRun.of_steps (run : FaultyRun world first history config) (patience : Nat) :
    ∃ later, FaultyRun world first later
      ((Schedule.start config).steps world patience).config :=
  Schedule.keeps_of_steps (fun config => ∃ history, FaultyRun world first history config)
    (fun _ _ ⟨_, earlier⟩ step => earlier.of_step step) ⟨history, run⟩

/-- A dead worker stays as it is, and it publishes nothing any more. -/
theorem FaultyRun.dead_stays {shard : Nat} {worker : Worker}
    (run : FaultyRun world first history config)
    (found : first.workers[shard]? = some worker) (dead : worker.activity = .panicked) :
    config.workers[shard]? = some worker ∧ config.callsOf shard = first.callsOf shard := by
  have gone : worker.isGone = true := by rw [Worker.isGone, dead]
  induction run with
  | start => exact ⟨found, rfl⟩
  | act action earlier taken ih =>
    obtain ⟨present, calls⟩ := ih
    obtain ⟨next, traffic, moves⟩ := (Config.change_of_act taken).2.moves [] present
    obtain ⟨rfl, rfl⟩ := moves.step.stay_of_gone gone
    have kept := congrArg Ledger.calls moves.ledger
    rw [Ledger.add_quiet] at kept
    exact ⟨moves.found, kept.trans calls⟩
  | pass time earlier later ih => exact ih
  | die other earlier lost ih =>
    obtain ⟨_, victim, there, alive, rfl⟩ := Config.of_die lost
    refine ⟨?_, ih.2⟩
    have apart : other ≠ shard := by
      rintro rfl
      rw [ih.1] at there
      cases there
      rw [gone] at alive
      cases alive
    rw [Config.setWorker, List.getElem?_set_ne apart]
    exact ih.1

/-- A run in which no worker is dead is one in which none has died. -/
theorem FaultyRun.run_of_alive (run : FaultyRun world first history config)
    (alive : ∀ worker ∈ config.workers, worker.activity ≠ .panicked) :
    Run world first history config := by
  induction run with
  | start => exact .start
  | act action earlier taken ih =>
    refine .act action (ih ?_) taken
    intro worker member dead
    obtain ⟨shard, found⟩ := List.mem_iff_getElem?.mp member
    obtain ⟨next, traffic, moves⟩ := (Config.change_of_act taken).2.moves [] found
    obtain ⟨rfl, _⟩ := moves.step.stay_of_gone (by rw [Worker.isGone, dead])
    exact alive next (List.mem_of_getElem? moves.found) dead
  | pass time earlier later ih => exact .pass time (ih alive) later
  | die shard earlier lost ih =>
    obtain ⟨_, worker, found, _, rfl⟩ := Config.of_die lost
    have inside := (List.getElem?_eq_some_iff.mp found).1
    exact absurd rfl (alive _ (List.mem_of_getElem? (List.getElem?_set_self inside)))

theorem Config.alive_of_hasDied (alive : config.hasDied = false) :
    ∀ worker ∈ config.workers, worker.activity ≠ .panicked := by
  intro worker member dead
  obtain ⟨shard, found⟩ := List.mem_iff_getElem?.mp member
  rw [hasDied_iff.mpr (.inr ⟨shard, worker, found, dead⟩)] at alive
  cases alive

end

variable {settings : PipelineSettings} {seed : Tally} {stopAt : Option Nat}

section Ends

variable {surroundings : σ} {history : History σ} {config : Config σ}

theorem FaultyRun.settings_eq
    (run : FaultyRun world (Config.start settings seed stopAt surroundings) history config) :
    config.settings = settings.clamped := by
  induction run with
  | start => rfl
  | act action earlier taken ih => rw [(Config.change_of_act taken).2.settings_eq, ih]
  | pass time earlier later ih => exact ih
  | die shard earlier lost ih =>
    obtain ⟨_, worker, _, _, rfl⟩ := Config.of_die lost
    exact ih

/-- A run returns when everybody is gone and all mail is read, with a verdict on it unless a task
has died. -/
theorem FaultyRun.returned
    (run : FaultyRun world (Config.start settings seed stopAt surroundings) history config)
    {outcome : Outcome} (result : config.outcome = some outcome) :
    config.allGone = true ∧ config.mail = [] ∧
      (config.hasDied = true ∧ outcome = .panicked ∨
        config.hasDied = false ∧ outcome = config.verdict) := by
  induction run with
  | start => cases result
  | @act history before after action earlier taken ih =>
    obtain ⟨open_, change⟩ := Config.change_of_act taken
    cases change with
    | request | heed | hear | intake | hand | work =>
      change before.outcome = some outcome at result
      rw [open_] at result
      cases result
    | died silent gone lost =>
      cases result
      exact ⟨gone, silent, .inl ⟨lost, rfl⟩⟩
    | returned lines silent gone alive =>
      cases result
      exact ⟨gone, silent, .inr ⟨alive, rfl⟩⟩
  | pass time earlier later ih => exact ih result
  | die shard earlier lost ih =>
    obtain ⟨open_, worker, _, _, rfl⟩ := Config.of_die lost
    change _ = some outcome at result
    rw [Config.setWorker, open_] at result
    cases result

/-- A run has nothing to tell exactly when one of its tasks has died. -/
theorem FaultyRun.panicked_iff
    (run : FaultyRun world (Config.start settings seed stopAt surroundings) history config)
    {outcome : Outcome} (result : config.outcome = some outcome) :
    outcome = .panicked ↔ config.hasDied = true := by
  obtain ⟨_, _, ⟨dead, rfl⟩ | ⟨alive, rfl⟩⟩ := run.returned result
  · simp [dead]
  · rw [alive, Config.verdict]
    cases config.failure <;> simp

/-- A run that has something to tell is one that no task has died in. -/
theorem FaultyRun.run_of_told
    (run : FaultyRun world (Config.start settings seed stopAt surroundings) history config)
    {outcome : Outcome} (result : config.outcome = some outcome) (told : outcome ≠ .panicked) :
    Run world (Config.start settings seed stopAt surroundings) history config := by
  apply run.run_of_alive
  apply Config.alive_of_hasDied
  exact Bool.eq_false_iff.mpr fun dead => told ((run.panicked_iff result).mpr dead)

/-- What holds of the supervisor and its mail, whoever dies. -/
structure FaultInv (config : Config σ) : Prop extends AlertInv config where
  running : config.outcome = none → config.lifecycle.phase = .running
  mail : ∀ message ∈ config.mail, message.haltReason.isSome = true

theorem FaultInv.change {action : Config.Action} (inv : FaultInv before)
    (open_ : before.outcome = none) (change : Config.Change world before action after) :
    FaultInv after := by
  have running := inv.running open_
  refine ⟨inv.toAlertInv.change open_ running inv.mail change, ?_, ?_⟩
  · intro still
    cases change with
    | request | intake | hand | work => exact running
    | heed => exact Lifecycle.phase_step running rfl
    | hear message mail lines first =>
      exact Lifecycle.phase_step running (inv.mail message (by rw [first]; exact .head _))
    | died | returned => cases still
  · intro message member
    cases change with
    | request | heed | died | returned | hand => exact inv.mail message member
    | hear heard mail lines first =>
      exact inv.mail message (by rw [first]; exact .tail _ member)
    | intake step =>
      exact (List.mem_append.mp member).elim (inv.mail message) (step.mail_halts message)
    | work mine found step =>
      exact (List.mem_append.mp member).elim (inv.mail message) fun new =>
        Message.halts_of_isFailure (step.mail_isFailure message new)

theorem FaultyRun.faultInv
    (run : FaultyRun world (Config.start settings seed stopAt surroundings) history config) :
    FaultInv config := by
  induction run with
  | start => exact ⟨.start, fun _ => rfl, nofun⟩
  | act action earlier taken ih =>
    obtain ⟨open_, change⟩ := Config.change_of_act taken
    exact ih.change open_ change
  | pass time earlier later ih =>
    exact ⟨⟨ih.known, ih.seen, ih.stranded⟩, ih.running, ih.mail⟩
  | die shard earlier lost ih =>
    obtain ⟨_, worker, _, _, rfl⟩ := Config.of_die lost
    exact ⟨⟨ih.known, ih.seen, ih.stranded⟩, ih.running, ih.mail⟩

/-- An observer of a run in which a task dies is left with a run that is running. -/
theorem FaultyRun.phases_shown
    (run : FaultyRun world (Config.start settings seed stopAt surroundings) history config) :
    config.hasBegun := by
  induction run with
  | start => exact ⟨0, rfl⟩
  | act action earlier taken ih =>
    obtain ⟨open_, change⟩ := Config.change_of_act taken
    have inv := earlier.faultInv
    refine ih.change open_ (inv.running open_) inv.mail ?_ change
    -- Without a death the supervisor has heard why intake ended before it ends the run.
    intro silent gone alive
    have sound := earlier.run_of_alive (Config.alive_of_hasDied alive)
    exact sound.supervisionInv.known_of_gone silent gone (Config.dispatcher_ne_of_alive alive)
  | pass time earlier later ih => exact ih
  | die shard earlier lost ih =>
    obtain ⟨_, worker, _, _, rfl⟩ := Config.of_die lost
    exact ih

theorem FaultyRun.not_stopped_of_dead
    (run : FaultyRun world (Config.start settings seed stopAt surroundings) history config)
    (dead : config.hasDied = true) : config.phases.getLast? ≠ some .stopped := by
  intro stopped
  obtain ⟨outcome, result, told⟩ := run.phases_shown.last_iff.mp stopped
  exact told ((run.panicked_iff result).mpr dead)

end Ends

section Length

variable {script : Script} {history : History Script} {config : Config Script}

inductive FaultyStep : Config Script → Config Script → Prop where
  | step {before after : Config Script} (taken : Config.Step Script.world before after) :
      FaultyStep before after
  | die {before after : Config Script} (shard : Nat) (lost : before.die? shard = some after) :
      FaultyStep before after

theorem Worker.load_dead_lt {worker : Worker} (alive : worker.isGone = false) :
    ({ worker with activity := .panicked } : Worker).load < worker.load := by
  unfold Worker.load
  cases activity : worker.activity with
  | receiving | pausing => simp only [Activity.load]; omega
  | publishing due attempt error => cases error <;> simp only [Activity.load] <;> omega
  | finished | failed | panicked => simp [Worker.isGone, activity] at alive

theorem Config.closer_of_die {before after : Config Script} {shard : Nat}
    (lost : before.die? shard = some after) : after.Closer before := by
  obtain ⟨_, worker, found, alive, rfl⟩ := of_die lost
  have kept := load_setWorker before found { worker with activity := .panicked }
  have less := Worker.load_dead_lt alive
  exact .left _ _ (by omega)

theorem FaultyRun.of_faultyStep {after : Config Script}
    (run : FaultyRun Script.world (Config.start settings seed stopAt script) history config)
    (step : FaultyStep config after) :
    after.Closer config ∧
      ∃ later, FaultyRun Script.world (Config.start settings seed stopAt script) later after := by
  cases step with
  | step taken => exact ⟨run.faultInv.toAlertInv.closer run.settings_eq taken, run.of_step taken⟩
  | die shard lost => exact ⟨Config.closer_of_die lost, history, run.die shard lost⟩

/-- No run is stuck because workers die. Until it returns, some task that lives can take a step or
awaits a time of its own, and whichever steps are taken and whoever dies, there is an end to it. -/
theorem FaultyRun.ends
    (run : FaultyRun Script.world (Config.start settings seed stopAt script) history config) :
    (config.outcome = none → config.CanProceed Script.world ∨ config.Awaits) ∧
      Acc (fun after before => FaultyStep before after) config := by
  refine ⟨run.faultInv.proceeds run.settings_eq, ?_⟩
  induction config using Config.closer_wf.induction generalizing history with
  | _ config ih =>
    refine ⟨_, fun after step => ?_⟩
    obtain ⟨closer, later, further⟩ := run.of_faultyStep step
    exact ih after closer further

end Length

/-- The run with five seas, if its first worker dies in the middle. -/
def drownedRun : Option (Config Script) :=
  ((run Script.world 20 narrow fiveSeas none (seaScript [])).die? 0).map fun config =>
    ((Schedule.start config).steps Script.world 1000).config

/-- It returns without a report, and its observers still see it running. -/
theorem drownedRun_never_stopped :
    ∃ history config, drownedRun = some config ∧
      FaultyRun Script.world (Config.start narrow fiveSeas none (seaScript [])) history config ∧
      config.outcome = some .panicked ∧ config.phases.getLast? ≠ some .stopped := by
  have ends : drownedRun.map Config.outcome = some (some .panicked) := by decide +kernel
  obtain ⟨config, drowned, result⟩ := Option.map_eq_some_iff.mp ends
  obtain ⟨dead, lost, rfl⟩ := Option.map_eq_some_iff.mp drowned
  obtain ⟨earlier, run⟩ := exists_history_of_run Script.world 20 narrow fiveSeas none
    (seaScript [])
  obtain ⟨history, further⟩ := ((FaultyRun.of_run run).die 0 lost).of_steps 1000
  refine ⟨history, _, drowned, further, result, ?_⟩
  exact further.not_stopped_of_dead ((further.panicked_iff result).mp rfl)

end WordTally.Pipeline
