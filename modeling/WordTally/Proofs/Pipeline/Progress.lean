import WordTally.Proofs.Pipeline.Supervision

set_option autoImplicit false

namespace WordTally

/-- The first reason to halt halts intake. -/
theorem Lifecycle.haltIntake_mem {state : Lifecycle} {message : Message}
    (running : state.phase = .running) (halts : message.haltReason.isSome = true)
    (unknown : state.stopReason = none) :
    (state.step message).2.contains .haltIntake = true := by
  obtain ⟨reason, halts⟩ := Option.isSome_iff_exists.mp halts
  have accepting : state.accepting = true := by
    rw [Lifecycle.accepting, running, unknown]
    rfl
  rw [step_of_haltReason running halts, halt, if_pos accepting]
  simp

namespace Pipeline

variable {σ : Type} {world : World σ}

/-- As long as the run has not returned, intake is halted as soon as there is a reason for it, and
a poll that is never answered has asked for one. -/
structure AlertInv (config : Config σ) : Prop where
  known : config.outcome = none → config.lifecycle.stopReason.isSome = true →
    config.halted = true
  seen : config.outcome = none → config.stopSeen = true → config.halted = true
  stranded : config.dispatcher = .stranded → config.stopRequested = true

theorem AlertInv.delivered {config : Config σ} (inv : AlertInv config)
    (open_ : config.outcome = none) (running : config.lifecycle.phase = .running)
    {message : Message} (halts : message.haltReason.isSome = true)
    (lines : List (Nat × LogLine)) : (config.delivered message lines).halted = true := by
  change (config.halted || (config.lifecycle.step message).2.contains .haltIntake) = true
  cases reason : config.lifecycle.stopReason with
  | none => rw [Lifecycle.haltIntake_mem running halts reason, Bool.or_true]
  | some first => rw [inv.known open_ (by rw [reason]; rfl), Bool.true_or]

theorem IntakeStep.of_stranded {config : Config σ} {answer : Option Poll} {counters : Counters}
    {mail : List Message} (step : IntakeStep config answer .stranded counters mail) :
    answer = some .interrupted := by
  cases step with
  | stranded => rfl

theorem AlertInv.change {before after : Config σ} {action : Config.Action}
    (inv : AlertInv before) (open_ : before.outcome = none)
    (running : before.lifecycle.phase = .running)
    (halting : ∀ message ∈ before.mail, message.haltReason.isSome = true)
    (change : Config.Change world before action after) : AlertInv after := by
  cases change with
  | request => exact ⟨inv.known, inv.seen, fun _ => rfl⟩
  | heed lines =>
    have halts : Message.stopRequested.haltReason.isSome = true := rfl
    have halted := inv.delivered open_ running halts lines
    exact ⟨fun _ _ => halted, fun _ _ => halted, inv.stranded⟩
  | hear message mail lines first =>
    have halts := halting message (by rw [first]; exact List.mem_cons_self)
    have halted := inv.delivered open_ running halts lines
    exact ⟨fun _ _ => halted, fun _ _ => halted, inv.stranded⟩
  | died | returned => exact ⟨nofun, nofun, inv.stranded⟩
  | intake step =>
    refine ⟨inv.known, inv.seen, ?_⟩
    rintro rfl
    rw [step.of_stranded]
    exact Bool.or_true _
  | hand => exact ⟨inv.known, inv.seen, nofun⟩
  | work => exact ⟨inv.known, inv.seen, inv.stranded⟩

section Run

variable {settings : PipelineSettings} {seed : Tally} {stopAt : Option Nat} {surroundings : σ}
  {history : History σ} {config : Config σ}

theorem AlertInv.start :
    AlertInv (Config.start settings seed stopAt surroundings) := ⟨nofun, nofun, nofun⟩

theorem Run.alertInv
    (run : Run world (Config.start settings seed stopAt surroundings) history config) :
    AlertInv config := by
  induction run with
  | start => exact .start
  | act action earlier taken ih =>
    obtain ⟨open_, change⟩ := Config.change_of_act taken
    exact ih.change open_ (earlier.supervisionInv.running open_) earlier.supervisionInv.mail change
  | pass time earlier later ih => exact ⟨ih.known, ih.seen, ih.stranded⟩

end Run

def Dispatcher.due? : Dispatcher → Option Nat
  | .waiting due _ | .pausing due _ => some due
  | _ => none

/-- When a worker's publish call or its pause ends. Its commit tick does not count. -/
def Worker.due? (worker : Worker) : Option Nat :=
  match worker.activity with
  | .publishing due _ _ _ | .pausing due _ _ => some due
  | .receiving | .finished | .failed | .panicked => none

namespace Config

/-- The commit tick of a shard that has nothing to publish. -/
def isIdleTick (config : Config σ) : Action → Bool
  | .tick shard => (config.workers[shard]?).any fun worker => worker.pending.isEmpty
  | _ => false

/-- Some task can take a step that is more than an idle tick. -/
def CanProceed (world : World σ) (config : Config σ) : Prop :=
  ∃ action after, config.act world action = some after ∧ config.isIdleTick action = false

/-- Some task waits for a time that is still to come, and it is not a commit tick. -/
def Awaits (config : Config σ) : Prop :=
  ∃ due, config.now < due ∧
    (config.dispatcher.due? = some due ∨ ∃ worker ∈ config.workers, worker.due? = some due)

variable {config : Config σ}

theorem canProceed_of_dispatch (open_ : config.outcome = none)
    (able : (config.dispatch? world).isSome = true) : config.CanProceed world := by
  obtain ⟨after, taken⟩ := Option.isSome_iff_exists.mp able
  exact ⟨.dispatch, after, by simp [act, open_, taken], rfl⟩

theorem canProceed_of_supervise (open_ : config.outcome = none)
    (able : config.supervise?.isSome = true) : config.CanProceed world := by
  obtain ⟨after, taken⟩ := Option.isSome_iff_exists.mp able
  exact ⟨.supervise, after, by simp [act, open_, taken], rfl⟩

/-- A worker that is not gone goes on or awaits its sink, if it has words to count or will have
none. -/
theorem worker_proceeds (open_ : config.outcome = none) {shard : Nat} {worker : Worker}
    (found : config.workers[shard]? = some worker) (alive : worker.isGone = false)
    (due : worker.queue ≠ [] ∨ config.dispatcher.isGone = true) :
    config.CanProceed world ∨ config.Awaits := by
  have member := List.mem_of_getElem? found
  cases activity : worker.activity with
  | receiving =>
    left
    refine ⟨.take shard, ?_⟩
    simp only [act, open_, Option.isSome_none, Bool.false_eq_true, ↓reduceIte, take?, found,
      activity, isIdleTick, and_true]
    cases queue : worker.queue with
    | nil =>
      have past := due.resolve_left fun some => some queue
      simp only [past, ↓reduceIte]
      exact ⟨_, rfl⟩
    | cons word rest =>
      dsimp only
      split
      · exact ⟨_, rfl⟩
      · exact ⟨_, rfl⟩
  | publishing time attempt error cause =>
    by_cases elapsed : time ≤ config.now
    · left
      refine ⟨.wake shard, config.settle shard worker attempt cause error, ?_, rfl⟩
      simp [act, open_, wake?, found, activity, elapsed]
    · exact .inr ⟨time, by omega, .inr ⟨worker, member, by simp [Worker.due?, activity]⟩⟩
  | pausing time attempt cause =>
    by_cases elapsed : time ≤ config.now
    · left
      refine ⟨.wake shard, config.publish world shard worker attempt cause, ?_, rfl⟩
      simp [act, open_, wake?, found, activity, elapsed]
    · exact .inr ⟨time, by omega, .inr ⟨worker, member, by simp [Worker.due?, activity]⟩⟩
  | finished | failed | panicked => simp [Worker.isGone, activity] at alive

/-- When the dispatcher is gone, the workers empty their queues, and the supervisor its mail. -/
theorem proceeds_of_gone (open_ : config.outcome = none)
    (gone : config.dispatcher.isGone = true) : config.CanProceed world ∨ config.Awaits := by
  cases mail : config.mail with
  | cons message rest =>
    exact .inl (canProceed_of_supervise open_ (by simp [supervise?, mail]))
  | nil =>
    by_cases all : config.workers.all Worker.isGone = true
    · have everybody : config.allGone = true := by rw [allGone, gone, all, Bool.and_self]
      exact .inl (canProceed_of_supervise open_ (by simp [supervise?, mail, everybody]))
    · simp only [List.all_eq_true, not_forall] at all
      obtain ⟨worker, member, alive⟩ := all
      obtain ⟨shard, found⟩ := List.mem_iff_getElem?.mp member
      exact worker_proceeds open_ found (Bool.eq_false_iff.mpr alive) (.inr gone)

end Config

namespace Config

variable {config : Config σ}

theorem clamped_capacity_pos (settings : PipelineSettings) : 1 ≤ settings.clamped.capacity :=
  Nat.le_max_right _ _

/-- At a word that finds no room, the shard of the word has words to count. -/
theorem handing_proceeds (roomy : 1 ≤ config.settings.capacity)
    (open_ : config.outcome = none) {word : String} {words : List String}
    {rest : List RawRecord} (handing : config.dispatcher = .handing (word :: words) rest) :
    config.CanProceed world ∨ config.Awaits := by
  have able (taken : (config.hand? word words rest).isSome = true) :
      config.CanProceed world :=
    Config.canProceed_of_dispatch open_ (by simpa [Config.dispatch?, handing] using taken)
  cases found : config.workers[shardOf word config.workers.length]? with
  | none => exact .inl (able (by simp [Config.hand?, found]))
  | some worker =>
    by_cases gone : worker.isGone = true
    · exact .inl (able (by simp [Config.hand?, found, gone]))
    · by_cases room : worker.queue.length < config.settings.capacity
      · exact .inl (able (by simp [Config.hand?, found, gone, room]))
      · -- The queue is full and has room for a word at least, so it holds one to be taken.
        refine Config.worker_proceeds open_ found (Bool.eq_false_iff.mpr gone) (.inl ?_)
        intro empty
        rw [empty, List.length_nil] at room
        omega

end Config

/-- Until a run returns, some task can take a step that is more than a commit tick with nothing to
publish, or waits for a time of its own. -/
theorem AlertInv.proceeds {config : Config σ} (inv : AlertInv config)
    {settings : PipelineSettings} (same : config.settings = settings.clamped)
    (open_ : config.outcome = none) : config.CanProceed world ∨ config.Awaits := by
  have able (taken : (config.dispatch? world).isSome = true) :
      config.CanProceed world ∨ config.Awaits :=
    .inl (Config.canProceed_of_dispatch open_ taken)
  cases state : config.dispatcher with
  | polling attempt =>
    apply able
    simp only [Config.dispatch?, state]
    split <;> rfl
  | waiting due attempt =>
    by_cases elapsed : due ≤ config.now
    · apply able
      simp only [Config.dispatch?, state, elapsed, ↓reduceIte]
      split <;> rfl
    · exact .inr ⟨due, by omega, .inl (by rw [state]; rfl)⟩
  | stranded =>
    by_cases halted : config.halted = true
    · exact able (by simp [Config.dispatch?, state, halted])
    · -- Nobody answers this poll, so the request to stop has to get through.
      have requested := inv.stranded state
      have unseen : config.stopSeen = false := by
        apply Bool.eq_false_iff.mpr
        intro seen
        exact halted (inv.seen open_ seen)
      left
      refine ⟨.heed, ?_⟩
      simp only [Config.act, open_, Option.isSome_none, Bool.false_eq_true, ↓reduceIte,
        Config.heed?, requested, unseen, Bool.not_false, Bool.and_self, Config.isIdleTick, and_true]
      exact ⟨_, rfl⟩
  | pausing due attempt =>
    by_cases elapsed : due ≤ config.now
    · apply able
      simp only [Config.dispatch?, state, elapsed, ↓reduceIte]
      split <;> rfl
    · exact .inr ⟨due, by omega, .inl (by rw [state]; rfl)⟩
  | reading records =>
    apply able
    cases records with
    | nil => simp [Config.dispatch?, state]
    | cons raw rest =>
      simp only [Config.dispatch?, state]
      split <;> rfl
  | handing words rest =>
    cases words with
    | nil => exact able (by simp [Config.dispatch?, state])
    | cons word words =>
      refine Config.handing_proceeds ?_ open_ state
      rw [same]
      exact Config.clamped_capacity_pos settings
  | closing => exact able (by simp [Config.dispatch?, state])
  | finished => exact Config.proceeds_of_gone open_ (by rw [state]; rfl)
  | panicked => exact Config.proceeds_of_gone open_ (by rw [state]; rfl)

section Run

variable {settings : PipelineSettings} {seed : Tally} {stopAt : Option Nat} {surroundings : σ}
  {history : History σ} {config : Config σ}

theorem Run.proceeds
    (run : Run world (Config.start settings seed stopAt surroundings) history config)
    (open_ : config.outcome = none) : config.CanProceed world ∨ config.Awaits :=
  run.alertInv.proceeds run.settings_eq open_

end Run

namespace Config

variable {config : Config σ}

theorem mem_actions {action : Action} {after : Config σ}
    (taken : config.act world action = some after) : action ∈ config.actions := by
  have worker {shard : Nat} {former : Worker} (found : config.workers[shard]? = some former) :
      shard < config.workers.length := (List.getElem?_eq_some_iff.mp found).1
  obtain ⟨open_, change⟩ := change_of_act taken
  cases change with
  | request | heed | hear | died | returned | intake | hand => simp [actions]
  | @work action shard former next traffic mine found =>
    cases action <;> cases mine <;> simp [actions, worker found]

theorem timers_ne_nil (awaits : config.Awaits) : config.timers ≠ [] := by
  obtain ⟨due, ahead, waits⟩ := awaits
  have member : due ∈ config.timers := by
    simp only [timers, List.mem_filter, List.mem_append, decide_eq_true_eq]
    refine ⟨.inl ?_, ahead⟩
    rcases waits with own | ⟨worker, member, own⟩
    · left
      cases state : config.dispatcher <;> simp only [state, Dispatcher.due?] at own ⊢ <;>
        cases own <;> exact List.mem_singleton_self _
    · right
      refine List.mem_flatMap.mpr ⟨worker, member, ?_⟩
      cases activity : worker.activity <;> simp only [Worker.due?, activity] at own ⊢ <;>
        cases own <;> exact List.mem_singleton_self _
  exact List.ne_nil_of_mem member

end Config

namespace AlertInv

variable {config : Config σ} {settings : PipelineSettings}

/-- When no task can take a step, one of them awaits a time of its own. -/
theorem awaits_of_quiet (inv : AlertInv config) (same : config.settings = settings.clamped)
    (open_ : config.outcome = none) (quiet : config.isQuiet world = true) : config.Awaits := by
  have next : config.CanProceed world ∨ config.Awaits := inv.proceeds same open_
  refine next.resolve_left ?_
  rintro ⟨action, after, taken, _⟩
  have idle := List.all_eq_true.mp quiet action (Config.mem_actions taken)
  rw [taken] at idle
  cases idle

theorem exists_advance (inv : AlertInv config) (same : config.settings = settings.clamped)
    (open_ : config.outcome = none) (quiet : config.isQuiet world = true) :
    ∃ after, config.advance? world = some after := by
  have awaits := inv.awaits_of_quiet same open_ quiet
  obtain ⟨time, times, waits⟩ := List.exists_cons_of_ne_nil (Config.timers_ne_nil awaits)
  exact ⟨{ config with now := times.foldl min time },
    by simp [Config.advance?, open_, quiet, waits]⟩

/-- A run on the virtual clock goes on until it returns. -/
theorem exists_step (inv : AlertInv config) (same : config.settings = settings.clamped)
    (open_ : config.outcome = none) : ∃ after, Config.Step world config after := by
  by_cases quiet : config.isQuiet world = true
  · obtain ⟨after, advanced⟩ := inv.exists_advance same open_ quiet
    exact ⟨after, .advance advanced⟩
  · have able : ∃ action ∈ config.actions, (config.act world action).isNone ≠ true := by
      simpa [Config.isQuiet] using quiet
    obtain ⟨action, _, taken⟩ := able
    cases result : config.act world action with
    | none =>
      rw [result] at taken
      exact absurd rfl taken
    | some after => exact ⟨after, .act action result⟩

end AlertInv

end Pipeline

end WordTally
