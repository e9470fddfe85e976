import WordTally.Pipeline.Schedule

set_option autoImplicit false

namespace WordTally.Pipeline

variable {σ : Type} {world : World σ} {schedule later : Schedule σ}

namespace Turn

def place : Turn → Nat
  | .supervisor => 0
  | .dispatcher => 1
  | .worker shard => shard + 2

def isPast : Turn → Config.Action → Bool
  | .supervisor, _ => false
  | .dispatcher, .request | .dispatcher, .heed | .dispatcher, .supervise => true
  | .dispatcher, _ => false
  | .worker shard, .take other | .worker shard, .tick other | .worker shard, .wake other =>
    other < shard
  | .worker _, _ => true

theorem isPast_of_mem {config : Config σ} {shard : Nat} (last : config.workers.length ≤ shard)
    {action : Config.Action} (member : action ∈ config.actions) :
    (Turn.worker shard).isPast action = true := by
  simp only [Config.actions, List.mem_append, List.mem_cons, List.not_mem_nil, or_false,
    List.mem_flatMap, List.mem_range] at member
  rcases member with own | ⟨other, bound, own⟩
  · rcases own with rfl | rfl | rfl | rfl <;> rfl
  · have before : other < shard := by omega
    rcases own with rfl | rfl | rfl <;> exact decide_eq_true before

end Turn

namespace Schedule

theorem firstOf_eq_none {config : Config σ} {actions : List Config.Action}
    (nothing : firstOf world config actions = none) :
    ∀ action ∈ actions, config.act world action = none :=
  List.findSome?_eq_none_iff.mp nothing

/-- What a schedule does next. -/
inductive Onward (world : World σ) (schedule : Schedule σ) : Schedule σ → Prop where
  | act {after : Config σ} (action : Config.Action) (turn : Turn)
      (taken : schedule.config.act world action = some after) :
      Onward world schedule ⟨after, turn, true⟩
  | pass (turn : Turn)
      (bound : schedule.turn.place < schedule.config.workers.length + 2)
      (follows : turn.place = schedule.turn.place + 1)
      (idle : ∀ action, turn.isPast action = true → schedule.turn.isPast action = false →
        schedule.config.act world action = none) :
      Onward world schedule { schedule with turn := turn }
  | again (active : schedule.moved = true) :
      Onward world schedule ⟨schedule.config, .supervisor, false⟩
  | clock {after : Config σ} (still : schedule.moved = false)
      (advanced : schedule.config.advance? world = some after) :
      Onward world schedule (start after)

theorem Onward.pass_supervisor (turn : schedule.turn = .supervisor)
    (nothing : firstOf world schedule.config [.request, .heed, .supervise] = none) :
    Onward world schedule { schedule with turn := .dispatcher } := by
  refine .pass .dispatcher (by rw [turn]; exact Nat.succ_pos _) (by rw [turn]; rfl) ?_
  intro action past _
  have idle := firstOf_eq_none nothing action
  cases action with
  | request | heed | supervise => exact idle (by simp)
  | dispatch | take | tick | wake => cases past

theorem Onward.pass_dispatcher (turn : schedule.turn = .dispatcher)
    (nothing : schedule.config.act world .dispatch = none) :
    Onward world schedule { schedule with turn := .worker 0 } := by
  have bound : schedule.turn.place < schedule.config.workers.length + 2 := by
    rw [turn]
    exact Nat.lt_add_of_pos_left (Nat.succ_pos _)
  refine .pass (.worker 0) bound (by rw [turn]; rfl) ?_
  intro action past unpast
  rw [turn] at unpast
  cases action with
  | dispatch => exact nothing
  | request | heed | supervise => cases unpast
  | take shard | tick shard | wake shard =>
    have below : shard < 0 := of_decide_eq_true past
    cases below

theorem Onward.pass_worker {shard : Nat} (turn : schedule.turn = .worker shard)
    (bound : shard < schedule.config.workers.length)
    (nothing : firstOf world schedule.config [.wake shard, .take shard, .tick shard] = none) :
    Onward world schedule { schedule with turn := .worker (shard + 1) } := by
  refine .pass (.worker (shard + 1)) (by rw [turn]; exact Nat.add_lt_add_right bound 2)
    (by rw [turn]; rfl) ?_
  intro action past unpast
  rw [turn] at unpast
  have idle := firstOf_eq_none nothing action
  cases action with
  | request | heed | supervise | dispatch => cases unpast
  | take other | tick other | wake other =>
    have within : other < shard + 1 := of_decide_eq_true past
    have beyond : ¬ other < shard := of_decide_eq_false unpast
    have same : other = shard := by omega
    subst same
    exact idle (by simp)

theorem onward_of_next (next : schedule.next world = some later) : Onward world schedule later := by
  have acted {actions : List Config.Action} {after : Config σ}
      (first : firstOf world schedule.config actions = some after) (turn : Turn) :
      Onward world schedule ⟨after, turn, true⟩ := by
    obtain ⟨action, _, taken⟩ := List.exists_of_findSome?_eq_some first
    exact .act action turn taken
  unfold Schedule.next at next
  dsimp only at next
  split at next
  · cases next
  · split at next
    · rename_i turn
      split at next
      · rename_i first
        cases next
        exact acted first .supervisor
      · rename_i nothing
        cases next
        exact .pass_supervisor turn nothing
    · rename_i turn
      split at next
      · rename_i taken
        cases next
        exact .act .dispatch _ taken
      · rename_i nothing
        cases next
        exact .pass_dispatcher turn nothing
    · rename_i shard turn
      split at next
      · rename_i bound
        split at next
        · rename_i first
          cases next
          exact acted first (.worker shard)
        · rename_i nothing
          cases next
          exact .pass_worker turn bound nothing
      · split at next
        · rename_i active
          cases next
          exact .again active
        · rename_i still
          obtain ⟨after, advanced, rfl⟩ := Option.map_eq_some_iff.mp next
          exact .clock (Bool.eq_false_iff.mpr still) advanced

/-- A schedule ends when its run has returned, or when the clock cannot move on after a round
without a step. -/
theorem of_next_eq_none (ends : schedule.next world = none)
    (open_ : schedule.config.outcome = none) :
    schedule.moved = false ∧ schedule.config.advance? world = none ∧
      ∃ shard, schedule.turn = .worker shard ∧ schedule.config.workers.length ≤ shard := by
  unfold Schedule.next at ends
  simp only [open_, Option.isSome_none, Bool.false_eq_true, ↓reduceIte] at ends
  split at ends
  · split at ends <;> cases ends
  · split at ends <;> cases ends
  · rename_i shard turn
    split at ends
    · split at ends <;> cases ends
    · rename_i last
      split at ends
      · cases ends
      · rename_i still
        exact ⟨Bool.eq_false_iff.mpr still, Option.map_eq_none_iff.mp ends, shard, turn,
          Nat.le_of_not_lt last⟩

/-- In a round without a step, nobody whose turn is past could take one. -/
def Tried (world : World σ) (schedule : Schedule σ) : Prop :=
  schedule.moved = false → ∀ action, schedule.turn.isPast action = true →
    schedule.config.act world action = none

theorem Tried.next (tried : Tried world schedule) (onward : Onward world schedule later) :
    Tried world later := by
  cases onward with
  | act => exact nofun
  | pass turn bound follows idle =>
    intro still action past
    cases already : schedule.turn.isPast action with
    | true => exact tried still action already
    | false => exact idle action past already
  | again | clock => exact fun _ _ past => nomatch past

/-- After a round without a step no task can take one. -/
theorem Tried.isQuiet (tried : Tried world schedule) (still : schedule.moved = false)
    {shard : Nat} (turn : schedule.turn = .worker shard)
    (last : schedule.config.workers.length ≤ shard) :
    schedule.config.isQuiet world = true := by
  apply List.all_eq_true.mpr
  intro action member
  have past := Turn.isPast_of_mem last member
  rw [tried still action (by rw [turn]; exact past)]
  rfl

theorem steps_of_next_eq_none {schedule : Schedule σ} (ends : schedule.next world = none)
    (patience : Nat) : schedule.steps world patience = schedule := by
  cases patience with
  | zero => rfl
  | succ patience => simp only [steps, ends]

theorem steps_add (schedule : Schedule σ) (first more : Nat) :
    schedule.steps world (first + more) = (schedule.steps world first).steps world more := by
  induction first generalizing schedule with
  | zero => rw [Nat.zero_add, steps]
  | succ first ih =>
    rw [Nat.succ_add]
    cases next : schedule.next world with
    | none => simp only [steps, next, steps_of_next_eq_none next]
    | some later => simp only [steps, next, ih later]

theorem next_of_returned {schedule : Schedule σ}
    (returned : schedule.config.outcome.isSome = true) : schedule.next world = none := by
  simp only [Schedule.next, returned, ↓reduceIte]

/-- A schedule goes on by steps on the virtual clock: what these keep, it keeps. -/
theorem keeps_of_next (kept : Config σ → Prop)
    (step : ∀ before after, kept before → Config.Step world before after → kept after)
    (now : kept schedule.config) (next : schedule.next world = some later) :
    kept later.config := by
  cases onward_of_next next with
  | act action turn taken => exact step _ _ now (.act action taken)
  | pass | again => exact now
  | clock still advanced => exact step _ _ now (.advance advanced)

theorem keeps_of_steps (kept : Config σ → Prop)
    (step : ∀ before after, kept before → Config.Step world before after → kept after)
    {patience : Nat} {schedule : Schedule σ} (now : kept schedule.config) :
    kept (schedule.steps world patience).config := by
  induction patience generalizing schedule with
  | zero => exact now
  | succ patience ih =>
    unfold Schedule.steps
    split
    · rename_i later next
      exact ih (keeps_of_next kept step now next)
    · exact now

end Schedule

end WordTally.Pipeline
