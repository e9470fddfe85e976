import WordTally.Lifecycle
import Mathlib.Tactic.Common

/-
The course of a lifecycle. Every list of messages takes one of four courses, by the first message
that opens the lifecycle and by whether it is drained afterwards. The course fixes the phase, the
reason to stop and all effects in their order. Phases never go back, and a reason once known stays.
-/

set_option autoImplicit false

namespace WordTally

/-- Whether a message is of any effect before the run has begun. -/
def Message.opens : Message → Bool
  | .start | .stopRequested => true
  | _ => false

def Phase.rank : Phase → Nat
  | .created => 0
  | .running => 1
  | .stopped => 2

namespace Lifecycle

variable {state : Lifecycle} {message : Message} {reason : StopReason}

/-- The reasons to halt that messages give, in order of arrival. -/
def reasons (messages : List Message) : List StopReason := messages.filterMap Message.haltReason

/-- What a reason to halt has reported: itself, if it is a failure. -/
def reported (reason : StopReason) : List Effect :=
  if reason.isFailure then [.reportFailure reason] else []

/-- The effects of all reasons to halt that a run hears of. The first one closes intake, after it
was reported. -/
def announced : List StopReason → List Effect
  | [] => []
  | first :: later => reported first ++ .haltIntake :: later.flatMap reported

/-- Where messages lead a new lifecycle, and with which effects. -/
inductive Course : List Message → Lifecycle → List Effect → Prop where
  | waiting (ignored : List Message)
      (unheard : ∀ message ∈ ignored, message.opens = false) :
      Course ignored ⟨.created, none⟩ []
  | withdrawn (ignored later : List Message)
      (unheard : ∀ message ∈ ignored, message.opens = false) :
      Course (ignored ++ .stopRequested :: later) ⟨.stopped, some .requested⟩ []
  | running (ignored heard : List Message)
      (unheard : ∀ message ∈ ignored, message.opens = false)
      (undrained : .drained ∉ heard) :
      Course (ignored ++ .start :: heard) ⟨.running, (reasons heard).head?⟩
        (.spawnWorkers :: announced (reasons heard))
  | drained (ignored heard later : List Message)
      (unheard : ∀ message ∈ ignored, message.opens = false)
      (undrained : .drained ∉ heard) :
      Course (ignored ++ .start :: (heard ++ .drained :: later))
        ⟨.stopped, some ((reasons heard).head?.getD .sourceExhausted)⟩
        (.spawnWorkers :: (announced (reasons heard) ++ [.releaseResources]))

theorem step_of_haltReason (running : state.phase = .running)
    (halts : message.haltReason = some reason) : state.step message = state.halt reason := by
  cases message <;> cases halts <;> simp only [step, running, Message.haltReason]

@[simp] theorem phase_halt (state : Lifecycle) (reason : StopReason) :
    (state.halt reason).1.phase = state.phase := by
  unfold halt
  dsimp only
  split <;> rfl

/-- The first reason to halt is the one that is kept. -/
theorem stopReason_halt (running : state.phase = .running) (reason : StopReason) :
    (state.halt reason).1.stopReason = some (state.stopReason.getD reason) := by
  cases known : state.stopReason <;> simp [halt, accepting, running, known]

theorem step_drained (running : state.phase = .running) (known : state.stopReason.isSome = true) :
    state.step .drained = (⟨.stopped, state.stopReason⟩, [.releaseResources]) := by
  obtain ⟨reason, same⟩ := Option.isSome_iff_exists.mp known
  simp only [step, running, same, Option.getD_some]

theorem step_of_stopped (stopped : state.phase = .stopped) (message : Message) :
    state.step message = (state, []) := by
  cases message <;> simp only [step, stopped]

theorem step_new (unheard : message.opens = false) : new.step message = (new, []) := by
  cases message with
  | start | stopRequested => cases unheard
  | sourceExhausted | sourceFailed | sinkFailed | drained => rfl

/-- A running lifecycle is halted, is drained, or passes over a message. -/
theorem step_running_cases (running : state.phase = .running) (message : Message) :
    (∃ reason, message.haltReason = some reason ∧ state.step message = state.halt reason) ∨
      message = .drained ∨ message.haltReason = none ∧ state.step message = (state, []) := by
  cases halts : message.haltReason with
  | some reason => exact .inl ⟨reason, rfl, step_of_haltReason running halts⟩
  | none =>
    cases message with
    | start => exact .inr (.inr ⟨rfl, by simp only [step, running, Message.haltReason]⟩)
    | drained => exact .inr (.inl rfl)
    | stopRequested | sourceExhausted | sourceFailed | sinkFailed => cases halts

theorem effects_halt (running : state.phase = .running) (reason : StopReason) :
    (state.halt reason).2 =
      reported reason ++ if state.stopReason.isSome then [] else [.haltIntake] := by
  cases known : state.stopReason <;> simp [halt, accepting, running, known, reported]

/-- No message leads back to an earlier phase. -/
theorem rank_step_le (state : Lifecycle) (message : Message) :
    state.phase.rank ≤ (state.step message).1.phase.rank := by
  cases phase : state.phase with
  | created => exact Nat.zero_le _
  | stopped =>
    rw [step_of_stopped phase]
    exact Nat.le_of_eq (congrArg Phase.rank phase.symm)
  | running =>
    rcases step_running_cases phase message with ⟨reason, -, halted⟩ | rfl | ⟨-, same⟩
    · simp [halted, phase]
    · simp [step, phase, Phase.rank]
    · simp [same, phase]

theorem stopReason_step_of_begun (begun : state.phase ≠ .created)
    (known : state.stopReason = some reason) (message : Message) :
    (state.step message).1.stopReason = some reason := by
  cases phase : state.phase with
  | created => exact absurd phase begun
  | stopped =>
    rw [step_of_stopped phase]
    exact known
  | running =>
    rcases step_running_cases phase message with ⟨other, -, halted⟩ | rfl | ⟨-, same⟩
    · rw [halted, stopReason_halt phase, known]
      rfl
    · rw [step_drained phase (by rw [known]; rfl)]
      exact known
    · rw [same]
      exact known

theorem reasons_cons_of_none {rest : List Message} (silent : message.haltReason = none) :
    reasons (message :: rest) = reasons rest := List.filterMap_cons_none silent

theorem reasons_cons_of_some {rest : List Message} (halts : message.haltReason = some reason) :
    reasons (message :: rest) = reason :: reasons rest := List.filterMap_cons_some halts

theorem run_append (state : Lifecycle) (first second : List Message) :
    state.run (first ++ second) =
      (((state.run first).1.run second).1,
        (state.run first).2 ++ ((state.run first).1.run second).2) := by
  induction first generalizing state with
  | nil => rfl
  | cons message rest ih =>
    rw [List.cons_append, run_cons, ih, run_cons, List.append_assoc]

theorem rank_run_le (state : Lifecycle) (messages : List Message) :
    state.phase.rank ≤ (state.run messages).1.phase.rank := by
  induction messages generalizing state with
  | nil => exact Nat.le_refl _
  | cons message rest ih => exact Nat.le_trans (rank_step_le state message) (ih _)

theorem stopReason_run_of_begun (begun : state.phase ≠ .created)
    (known : state.stopReason = some reason) (messages : List Message) :
    (state.run messages).1.stopReason = some reason := by
  induction messages generalizing state with
  | nil => exact known
  | cons message rest ih =>
    have still : (state.step message).1.phase ≠ .created := by
      intro created
      have onward := rank_step_le state message
      rw [created] at onward
      cases phase : state.phase with
      | created => exact begun phase
      | running | stopped =>
        rw [phase] at onward
        cases onward
    exact ih still (stopReason_step_of_begun begun known message)

theorem run_of_stopped (stopped : state.phase = .stopped) (messages : List Message) :
    state.run messages = (state, []) := by
  induction messages with
  | nil => rfl
  | cons message rest ih => rw [run_cons, step_of_stopped stopped, ih, List.nil_append]

theorem run_new_of_unheard {ignored : List Message}
    (unheard : ∀ message ∈ ignored, message.opens = false) : new.run ignored = (new, []) := by
  induction ignored with
  | nil => rfl
  | cons message rest ih =>
    rw [run_cons, step_new (unheard message List.mem_cons_self),
      ih fun other member => unheard other (List.mem_cons_of_mem _ member), List.nil_append]

/-- A running lifecycle keeps the reason that it knows; the others are only reported. -/
theorem run_of_known (first : StopReason) {heard : List Message} (undrained : .drained ∉ heard) :
    run ⟨.running, some first⟩ heard =
      (⟨.running, some first⟩, (reasons heard).flatMap reported) := by
  induction heard with
  | nil => rfl
  | cons message rest ih =>
    have ih := ih fun member => undrained (List.mem_cons_of_mem _ member)
    have running : (⟨.running, some first⟩ : Lifecycle).phase = .running := rfl
    rw [run_cons]
    rcases step_running_cases running message with ⟨reason, halts, halted⟩ | rfl | ⟨silent, same⟩
    · have kept : (halt ⟨.running, some first⟩ reason).1 = ⟨.running, some first⟩ := rfl
      have effects : (halt ⟨.running, some first⟩ reason).2 = reported reason :=
        (effects_halt rfl reason).trans (List.append_nil _)
      rw [halted, kept, effects, ih, reasons_cons_of_some halts, List.flatMap_cons]
    · exact absurd List.mem_cons_self undrained
    · rw [same, ih, reasons_cons_of_none silent, List.nil_append]

theorem run_of_unknown {heard : List Message} (undrained : .drained ∉ heard) :
    run ⟨.running, none⟩ heard =
      (⟨.running, (reasons heard).head?⟩, announced (reasons heard)) := by
  induction heard with
  | nil => rfl
  | cons message rest ih =>
    have later : .drained ∉ rest := fun member => undrained (List.mem_cons_of_mem _ member)
    have running : (⟨.running, none⟩ : Lifecycle).phase = .running := rfl
    rw [run_cons]
    rcases step_running_cases running message with ⟨reason, halts, halted⟩ | rfl | ⟨silent, same⟩
    · have kept : (halt ⟨.running, none⟩ reason).1 = ⟨.running, some reason⟩ := rfl
      have effects : (halt ⟨.running, none⟩ reason).2 = reported reason ++ [.haltIntake] :=
        effects_halt rfl reason
      rw [halted, kept, effects, run_of_known reason later, reasons_cons_of_some halts, announced,
        List.head?_cons, List.append_assoc, List.singleton_append]
    · exact absurd List.mem_cons_self undrained
    · rw [same, ih later, reasons_cons_of_none silent, List.nil_append]

/-- A running lifecycle that is drained has stopped, whatever arrives later. -/
theorem run_drained {heard : List Message} (undrained : .drained ∉ heard) (later : List Message) :
    run ⟨.running, none⟩ (heard ++ .drained :: later) =
      (⟨.stopped, some ((reasons heard).head?.getD .sourceExhausted)⟩,
        announced (reasons heard) ++ [.releaseResources]) := by
  have stops : step ⟨.running, (reasons heard).head?⟩ .drained =
      (⟨.stopped, some ((reasons heard).head?.getD .sourceExhausted)⟩, [.releaseResources]) := rfl
  rw [run_append, run_of_unknown undrained, run_cons, stops, run_of_stopped rfl]
  rfl

theorem course_new (messages : List Message) :
    Course messages (new.run messages).1 (new.run messages).2 := by
  cases found : messages.find? Message.opens with
  | none =>
    have unheard : ∀ message ∈ messages, message.opens = false := by
      simpa using List.find?_eq_none.mp found
    rw [run_new_of_unheard unheard]
    exact .waiting messages unheard
  | some opener =>
    obtain ⟨opens, ignored, rest, rfl, before⟩ := List.find?_eq_some_iff_append.mp found
    have unheard : ∀ message ∈ ignored, message.opens = false := by simpa using before
    rw [run_append, run_new_of_unheard unheard, List.nil_append, run_cons]
    cases opener with
    | sourceExhausted | sourceFailed | sinkFailed | drained => cases opens
    | stopRequested =>
      change Course _ (run ⟨.stopped, some .requested⟩ rest).1
        (run ⟨.stopped, some .requested⟩ rest).2
      rw [run_of_stopped rfl]
      exact .withdrawn ignored rest unheard
    | start =>
      change Course _ (run ⟨.running, none⟩ rest).1
        (.spawnWorkers :: (run ⟨.running, none⟩ rest).2)
      by_cases drained : .drained ∈ rest
      · obtain ⟨heard, later, rfl, undrained⟩ := List.eq_append_cons_of_mem drained
        rw [run_drained undrained]
        exact .drained ignored heard later unheard undrained
      · rw [run_of_unknown drained]
        exact .running ignored rest unheard drained

theorem Course.stopReason_of_created {messages : List Message} {effects : List Effect}
    (course : Course messages state effects) (created : state.phase = .created) :
    state.stopReason = none := by
  cases course with
  | waiting => rfl
  | withdrawn | running | drained => cases created

theorem Course.stopReason_of_stopped {messages : List Message} {effects : List Effect}
    (course : Course messages state effects) (stopped : state.phase = .stopped) :
    state.stopReason.isSome = true := by
  cases course with
  | waiting | running => cases stopped
  | withdrawn | drained => rfl

/-- Every list of messages takes one of the four courses. On the way phases never go back, there is
no reason to stop before the run has begun and there is one when it has stopped, a reason once known
stays, and a lifecycle that has stopped answers to nothing. -/
theorem new_takes_course (messages later : List Message) :
    let now := new.run messages
    let afterwards := new.run (messages ++ later)
    Course messages now.1 now.2 ∧
      now.1.phase.rank ≤ afterwards.1.phase.rank ∧
      (now.1.phase = .created → now.1.stopReason = none) ∧
      (now.1.phase = .stopped → now.1.stopReason.isSome = true) ∧
      (∀ reason, now.1.stopReason = some reason → afterwards.1.stopReason = some reason) ∧
      (now.1.phase = .stopped → now.1.run later = (now.1, [])) := by
  intro now afterwards
  have course := course_new messages
  have onward : afterwards.1 = (now.1.run later).1 := by
    change (new.run (messages ++ later)).1 = _
    rw [run_append]
  refine ⟨course, ?_, course.stopReason_of_created, course.stopReason_of_stopped, ?_, ?_⟩
  · rw [onward]
    exact rank_run_le now.1 later
  · intro reason known
    have begun : now.1.phase ≠ .created := by
      intro created
      rw [course.stopReason_of_created created] at known
      cases known
    rw [onward]
    exact stopReason_run_of_begun begun known later
  · exact fun stopped => run_of_stopped stopped later

end Lifecycle

end WordTally
