import WordTally.Proofs.Pipeline.Workload

/-
Every run returns whose surroundings are written down. On the virtual clock time passes only when no
task can take a step. A step does some of what is left, or moves an idle tick on, and when the clock
moves on, the next time that a task awaits comes nearer; so there are only finitely many of them.
-/

set_option autoImplicit false

namespace WordTally.Pipeline

/-- Whatever steps are taken on the virtual clock, they come to an end, and there the run has
returned. -/
inductive Returns {σ : Type} (world : World σ) : Config σ → Prop where
  | done {config : Config σ} (returned : config.outcome.isSome = true) : Returns world config
  | step {config : Config σ}
      (able : ∃ after, Config.Step world config after)
      (all : ∀ after, Config.Step world config after → Returns world after) :
      Returns world config

namespace Config

variable {σ : Type} {world : World σ} {config before after : Config σ} {action : Action}

/-- A time that no task awaits any more. -/
def horizon (config : Config σ) : Nat :=
  config.dispatcher.due?.getD 0 + (config.workers.map fun worker => worker.due?.getD 0).sum

/-- How much the commit ticks are behind. -/
def lateness (config : Config σ) : Nat :=
  (config.workers.map fun worker => config.now + 1 - worker.tickDue).sum

theorem now_lt_horizon (awaits : config.Awaits) : config.now < config.horizon := by
  obtain ⟨due, ahead, waits⟩ := awaits
  unfold horizon
  rcases waits with own | ⟨worker, member, own⟩
  · rw [own, Option.getD_some]
    omega
  · have among : due ∈ config.workers.map fun worker => worker.due?.getD 0 :=
      List.mem_map.mpr ⟨worker, member, by rw [own]; rfl⟩
    have below := List.le_sum_of_mem among
    omega

theorem of_idle_tick (taken : before.act world action = some after)
    (idle : before.isIdleTick action = true) :
    ∃ shard worker, before.workers[shard]? = some worker ∧ worker.activity = .receiving ∧
      worker.tickDue ≤ before.now ∧
      after = before.setWorker shard
        ((worker.ticked before.now before.settings.commitMillis).rest .tick) := by
  have open_ := (change_of_act taken).1
  cases action with
  | tick shard =>
    simp only [act, open_, Option.isSome_none, Bool.false_eq_true, ↓reduceIte, tick?] at taken
    split at taken
    · cases taken
    · rename_i worker found
      simp only [isIdleTick, found, Option.any_some, List.isEmpty_iff] at idle
      split at taken
      · rename_i receiving
        split at taken
        · rename_i late
          cases taken
          have empty : (worker.ticked before.now before.settings.commitMillis).pending = [] := idle
          exact ⟨shard, worker, found, receiving, late, flush_of_nil before empty .tick⟩
        · cases taken
      · cases taken
  | request | heed | supervise | dispatch | take | wake => cases idle

theorem lt_nextTick {due now interval : Nat} (positive : 1 ≤ interval) :
    due < Worker.nextTick due now interval := by
  unfold Worker.nextTick
  split <;> omega

/-- An idle tick leaves the times that are awaited and moves a commit tick on. -/
theorem idle_tick_later (taken : before.act world action = some after)
    (idle : before.isIdleTick action = true) (positive : 1 ≤ before.settings.commitMillis) :
    after.now = before.now ∧ after.horizon = before.horizon ∧
      after.lateness < before.lateness := by
  obtain ⟨shard, worker, found, receiving, late, rfl⟩ := of_idle_tick taken idle
  let next := (worker.ticked before.now before.settings.commitMillis).rest .tick
  have own : worker.due? = none := by simp only [Worker.due?, receiving]
  refine ⟨rfl, ?_, ?_⟩
  · have sum := sum_map_set (fun worker : Worker => worker.due?.getD 0) found next
    have none : next.due? = none := rfl
    rw [own, none, Option.getD_none, Nat.add_zero, Nat.add_zero] at sum
    exact congrArg (before.dispatcher.due?.getD 0 + ·) sum
  · have sum := sum_map_set (fun worker : Worker => before.now + 1 - worker.tickDue) found next
    have later : worker.tickDue < next.tickDue := lt_nextTick positive
    change ((before.workers.set shard next).map fun worker =>
      before.now + 1 - worker.tickDue).sum < _
    unfold lateness
    omega

end Config

namespace Config

/-- What is left to do, how far off the last awaited time is, and how late the commit ticks are. -/
def distance (config : Config Script) : Nat × Nat × Nat :=
  (config.load, config.horizon - config.now, config.lateness)

/-- The first of the three figures that changes has become smaller. -/
def Closer (after before : Config Script) : Prop :=
  Prod.Lex (· < ·) (Prod.Lex (· < ·) (· < ·)) after.distance before.distance

theorem closer_wf : WellFounded Closer :=
  InvImage.wf distance
    (Prod.lex Nat.lt_wfRel (Prod.lex Nat.lt_wfRel Nat.lt_wfRel)).wf

theorem closer_of_act {before after : Config Script} {action : Action}
    (taken : before.act Script.world action = some after)
    (positive : 1 ≤ before.settings.commitMillis) : after.Closer before := by
  have paid := load_of_act taken
  cases idle : before.isIdleTick action with
  | false =>
    rw [idle, if_neg Bool.false_ne_true] at paid
    exact .left _ _ paid
  | true =>
    -- Nothing that is left is done, and no time that is awaited changes: only the tick is later.
    rw [if_pos idle] at paid
    obtain ⟨now, horizon, less⟩ := idle_tick_later taken idle positive
    unfold Closer distance
    rw [paid, now, horizon]
    exact .right _ (.right _ less)

theorem clamped_commitMillis_pos (settings : PipelineSettings) :
    1 ≤ settings.clamped.commitMillis :=
  Nat.le_max_right _ _

end Config

/-- Every step on the virtual clock leads closer to the end. -/
theorem AlertInv.closer {config after : Config Script} (inv : AlertInv config)
    {settings : PipelineSettings} (same : config.settings = settings.clamped)
    (step : Config.Step Script.world config after) : after.Closer config := by
  cases step with
  | act action taken =>
    have positive := Config.clamped_commitMillis_pos settings
    rw [← same] at positive
    exact Config.closer_of_act taken positive
  | advance taken =>
    obtain ⟨open_, quiet, time, later, _, rfl⟩ := Config.of_advance taken
    have ahead := Config.now_lt_horizon (inv.awaits_of_quiet same open_ quiet)
    have nearer : config.horizon - time < config.horizon - config.now := by omega
    exact .right _ (.left _ _ nearer)

section Run

variable {settings : PipelineSettings} {seed : Tally} {stopAt : Option Nat} {script : Script}
  {history : History Script} {config : Config Script}

theorem Run.closer
    (run : Run Script.world (Config.start settings seed stopAt script) history config)
    {after : Config Script} (step : Config.Step Script.world config after) :
    after.Closer config :=
  run.alertInv.closer run.settings_eq step

theorem Run.returns
    (run : Run Script.world (Config.start settings seed stopAt script) history config) :
    Returns Script.world config := by
  induction config using Config.closer_wf.induction generalizing history with
  | _ config ih =>
    by_cases returned : config.outcome.isSome = true
    · exact .done returned
    · have open_ : config.outcome = none := by simpa using returned
      refine .step (run.alertInv.exists_step run.settings_eq open_) ?_
      intro after step
      obtain ⟨later, further⟩ := run.of_step step
      exact ih after (run.closer step) further

/-- No run on written surroundings is stuck. Until it returns, some task can take a step that is
more than a commit tick with nothing to publish, or awaits a time that is still to come and that is
not a commit tick. There are only so many of these steps, in whatever order they are taken and
however the time passes, and on the virtual clock every order of steps leads to the end of the
run. -/
theorem Run.never_stuck
    (run : Run Script.world (Config.start settings seed stopAt script) history config) :
    (config.outcome = none → config.CanProceed Script.world ∨ config.Awaits) ∧
      (History.busy history).length ≤ (Config.start settings seed stopAt script).load ∧
      Returns Script.world config := by
  refine ⟨run.proceeds, ?_, run.returns⟩
  have paid := run.busy_le
  omega

/-- A run that has just begun to publish goes on from there. -/
theorem seaRun_never_stuck :
    (Pipeline.run Script.world 20 narrow fiveSeas none
        (seaScript [⟨1, some (.transient "busy")⟩])).outcome = none ∧
      Returns Script.world (Pipeline.run Script.world 20 narrow fiveSeas none
        (seaScript [⟨1, some (.transient "busy")⟩])) := by
  obtain ⟨history, sea⟩ := exists_history_of_run Script.world 20 narrow fiveSeas none
    (seaScript [⟨1, some (.transient "busy")⟩])
  exact ⟨by decide +kernel, sea.never_stuck.2.2⟩

end Run

namespace Schedule

def left {σ : Type} (schedule : Schedule σ) : Nat :=
  schedule.config.workers.length + 2 - schedule.turn.place

def Nearer (later schedule : Schedule Script) : Prop :=
  Prod.Lex Config.Closer (Prod.Lex (· < ·) (· < ·))
    (later.config, later.moved.toNat, later.left)
    (schedule.config, schedule.moved.toNat, schedule.left)

theorem nearer_wf : WellFounded Nearer :=
  InvImage.wf (fun schedule : Schedule Script =>
      (schedule.config, schedule.moved.toNat, schedule.left))
    (Prod.lex ⟨_, Config.closer_wf⟩ (Prod.lex Nat.lt_wfRel Nat.lt_wfRel)).wf

variable {settings : PipelineSettings} {seed : Tally} {stopAt : Option Nat} {script : Script}
  {history : History Script} {schedule later : Schedule Script}

theorem Onward.nearer
    (run : Run Script.world (Config.start settings seed stopAt script) history schedule.config)
    (onward : Onward Script.world schedule later) : later.Nearer schedule := by
  cases onward with
  | act action turn taken => exact .left _ _ (run.closer (.act action taken))
  | clock still advanced => exact .left _ _ (run.closer (.advance advanced))
  | again active =>
    have less : false.toNat < schedule.moved.toNat := by
      rw [active]
      exact Nat.zero_lt_one
    exact .right _ (.left _ _ less)
  | pass turn bound follows =>
    have fewer : schedule.config.workers.length + 2 - turn.place < schedule.left := by
      unfold left
      omega
    exact .right _ (.right _ fewer)

theorem returns
    (run : Run Script.world (Config.start settings seed stopAt script) history schedule.config)
    (tried : Tried Script.world schedule) :
    ∃ patience, (schedule.steps Script.world patience).config.outcome.isSome = true := by
  induction schedule using nearer_wf.induction generalizing history with
  | _ schedule ih =>
    cases next : schedule.next Script.world with
    | some later =>
      have onward := onward_of_next next
      obtain ⟨_, further⟩ := Schedule.run_of_next ⟨history, run⟩ next
      obtain ⟨patience, returned⟩ := ih later (onward.nearer run) further (tried.next onward)
      exact ⟨patience + 1, by simpa only [steps, next] using returned⟩
    | none =>
      by_cases open_ : schedule.config.outcome = none
      · obtain ⟨still, stuck, shard, turn, last⟩ := of_next_eq_none next open_
        have quiet := tried.isQuiet still turn last
        obtain ⟨after, advanced⟩ := run.alertInv.exists_advance run.settings_eq open_ quiet
        rw [advanced] at stuck
        cases stuck
      · exact ⟨0, Option.isSome_iff_ne_none.mpr open_⟩

end Schedule

/-- With enough patience a run by turns returns, and more patience changes nothing. -/
theorem exists_patience (settings : PipelineSettings) (seed : Tally) (stopAt : Option Nat)
    (script : Script) :
    ∃ patience, (run Script.world patience settings seed stopAt script).outcome.isSome = true ∧
      ∀ more, run Script.world (patience + more) settings seed stopAt script =
        run Script.world patience settings seed stopAt script := by
  let first := Schedule.start (Config.start settings seed stopAt script)
  have begun : Run Script.world (Config.start settings seed stopAt script) [] first.config := .start
  have tried : first.Tried Script.world := fun _ _ past => by cases past
  obtain ⟨patience, returned⟩ := Schedule.returns begun tried
  refine ⟨patience, returned, ?_⟩
  intro more
  have ends : (first.steps Script.world patience).next Script.world = none :=
    Schedule.next_of_returned returned
  rw [run, Schedule.steps_add, Schedule.steps_of_next_eq_none ends more]
  rfl

end WordTally.Pipeline
