import WordTally.Proofs.Http.Traffic
import WordTally.Service.Run

set_option autoImplicit false

namespace WordTally.Service

open Http.Network (Silent)

variable {α β ε : Type} {machine : Machine}

namespace Work

/-- What becomes of work on a machine. -/
def exec (work : Work α) (machine : Machine) : Except Failure α × Machine := work.run.run machine

theorem exec_bind (first : Work α) (next : α → Work β) (machine : Machine) :
    (first >>= next).exec machine =
      match (first.exec machine).1 with
      | .ok value => (next value).exec (first.exec machine).2
      | .error failure => (.error failure, (first.exec machine).2) := by
  have steps : (first >>= next).exec machine =
      (ExceptT.bindCont next (first.exec machine).1).run (first.exec machine).2 := rfl
  rw [steps]
  cases (first.exec machine).1 <;> rfl

/-- Whatever holds of a failure and of what follows a success holds of both works together. -/
theorem of_bind {first : Work α} {next : α → Work β} {property : Except Failure β × Machine → Prop}
    (fails : ∀ failure after, first.exec machine = (.error failure, after) →
      property (.error failure, after))
    (goesOn : ∀ value after, first.exec machine = (.ok value, after) →
      property ((next value).exec after)) :
    property ((first >>= next).exec machine) := by
  rw [exec_bind]
  cases ended : first.exec machine with
  | mk result after =>
    cases result with
    | error failure => exact fails failure after ended
    | ok value => exact goesOn value after ended

theorem exec_say_bind (line : LogLine) (next : Unit → Work α) (machine : Machine) :
    (say line >>= next).exec machine = (next ()).exec (machine.say line) := rfl

theorem exec_modifyGet (step : Machine → α × Machine) (machine : Machine) :
    (modifyGet step : Work α).exec machine = (.ok (step machine).1, (step machine).2) := rfl

theorem exec_tryCatch (work : Work α) (handler : Failure → Work α) (machine : Machine) :
    (tryCatch work handler).exec machine =
      match (work.exec machine).1 with
      | .ok value => (.ok value, (work.exec machine).2)
      | .error failure => (handler failure).exec (work.exec machine).2 := by
  cases ended : work.exec machine with
  | mk result after =>
    have ran : StateT.run work machine = (result, after) := ended
    have steps : (tryCatch work handler).exec machine =
        (ExceptT.tryCatch work handler).run.run machine := rfl
    rw [steps]
    simp only [ExceptT.tryCatch, ExceptT.run_mk, StateT.run_bind, ran]
    cases result <;> rfl

theorem exec_talk (failure : ε → Failure) (dialogue : Http.Talk (Except ε α)) (machine : Machine) :
    (talk failure dialogue).exec machine =
      (match (dialogue.run machine.network).1 with
        | .ok value => .ok value
        | .error error => .error (failure error),
      (machine.talk dialogue).2) := by
  have spoken : (machine.talk dialogue).1 = (dialogue.run machine.network).1 := rfl
  unfold talk
  rw [exec_bind, exec_modifyGet]
  dsimp only
  rw [spoken]
  cases (dialogue.run machine.network).1 <;> rfl

theorem silent_talk (dialogue : Http.Talk α) (machine : Machine) :
    Silent (dialogue.run machine.network).2 (machine.talk dialogue).2.network := ⟨rfl, rfl, rfl⟩

theorem exec_onDisk (task : Disk → Except SnapshotError (α × LogLine) × Disk) (machine : Machine) :
    (onDisk task).exec machine =
      match (task machine.settle.disk).1 with
      | .ok (value, line) => (.ok value, ((machine.work task).2).say line)
      | .error error => (.error (.snapshot error), (machine.work task).2) := by
  have done : (machine.work task).1 = (task machine.settle.disk).1 := rfl
  unfold onDisk
  rw [exec_bind, exec_modifyGet]
  dsimp only
  rw [done]
  cases (task machine.settle.disk).1 <;> rfl

theorem silent_onDisk (task : Disk → Except SnapshotError (α × LogLine) × Disk)
    (machine : Machine) : Silent machine.network ((onDisk task).exec machine).2.network := by
  rw [exec_onDisk]
  split <;> exact ⟨rfl, rfl, rfl⟩

end Work

end WordTally.Service
