import WordTally.Proofs.Pipeline.Inversion
import WordTally.Proofs.Pipeline.Turns

/-
Runs with all their steps. A task may take its next step at any moment, and time may pass at any
moment too, so what holds of every run holds under every schedule and every clock.
-/

set_option autoImplicit false

namespace WordTally

def Poll.records : Poll → List RawRecord
  | .batch records => records
  | _ => []

namespace Pipeline

variable {σ : Type}

/-- The steps of a run, each with the configuration that it was taken in. -/
abbrev History (σ : Type) := List (Config σ × Config.Action)

/-- A run so far. -/
inductive Run (world : World σ) (first : Config σ) : History σ → Config σ → Prop where
  | start : Run world first [] first
  | act {history : History σ} {before after : Config σ} (action : Config.Action)
      (earlier : Run world first history before)
      (taken : before.act world action = some after) :
      Run world first (history ++ [(before, action)]) after
  | pass {history : History σ} {config : Config σ} (time : Nat)
      (earlier : Run world first history config)
      (later : config.now ≤ time) :
      Run world first history { config with now := time }

namespace History

def answers (world : World σ) (history : History σ) : List Poll :=
  history.filterMap fun step => step.1.answer? world step.2

/-- The records of all batches that the source gave. -/
def records (world : World σ) (history : History σ) : List RawRecord :=
  (answers world history).flatMap Poll.records

/-- The words put into queues, with their shards. -/
def handed (history : History σ) : List (Nat × String) :=
  history.filterMap fun step => step.1.handed? step.2

/-- The words taken out of queues and counted, with their shards. -/
def counted (history : History σ) : List (Nat × String) :=
  history.filterMap fun step => step.1.counted? step.2

/-- The words put into queues, in order. -/
def dispatched (history : History σ) : List String := (handed history).map Prod.snd

def ofShard (shard : Nat) (words : List (Nat × String)) : List String :=
  (words.filter fun word => word.1 == shard).map Prod.snd

/-- The words put into the queue of a shard. -/
def sentTo (history : History σ) (shard : Nat) : List String := ofShard shard (handed history)

/-- The words that a shard has counted. -/
def countedBy (history : History σ) (shard : Nat) : List String :=
  ofShard shard (counted history)

theorem answers_concat (world : World σ) (history : History σ) (config : Config σ)
    (action : Config.Action) :
    answers world (history ++ [(config, action)]) =
      answers world history ++ (config.answer? world action).toList := by
  simp only [answers, List.filterMap_append]
  cases answer : config.answer? world action <;> simp [answer]

theorem handed_concat (history : History σ) (config : Config σ) (action : Config.Action) :
    handed (history ++ [(config, action)]) = handed history ++ (config.handed? action).toList := by
  simp only [handed, List.filterMap_append]
  cases word : config.handed? action <;> simp [word]

theorem counted_concat (history : History σ) (config : Config σ) (action : Config.Action) :
    counted (history ++ [(config, action)]) =
      counted history ++ (config.counted? action).toList := by
  simp only [counted, List.filterMap_append]
  cases word : config.counted? action <;> simp [word]

theorem records_concat (world : World σ) (history : History σ) (config : Config σ)
    (action : Config.Action) :
    records world (history ++ [(config, action)]) =
      records world history ++ (config.answer? world action).toList.flatMap Poll.records := by
  simp only [records, answers_concat, List.flatMap_append]

theorem dispatched_concat (history : History σ) (config : Config σ) (action : Config.Action) :
    dispatched (history ++ [(config, action)]) =
      dispatched history ++ (config.handed? action).toList.map Prod.snd := by
  simp only [dispatched, handed_concat, List.map_append]

@[simp] theorem ofShard_nil (shard : Nat) : ofShard shard [] = [] := rfl

theorem ofShard_append (shard : Nat) (first second : List (Nat × String)) :
    ofShard shard (first ++ second) = ofShard shard first ++ ofShard shard second := by
  simp only [ofShard, List.filter_append, List.map_append]

@[simp] theorem ofShard_same (shard : Nat) (words : List String) :
    ofShard shard (words.map (Prod.mk shard)) = words := by
  induction words with
  | nil => rfl
  | cons word rest ih => simpa [ofShard] using ih

theorem ofShard_other {shard other : Nat} (apart : other ≠ shard) (words : List String) :
    ofShard shard (words.map (Prod.mk other)) = [] := by
  simp [ofShard, List.filter_eq_nil_iff, apart]

theorem sentTo_concat (history : History σ) (config : Config σ) (action : Config.Action)
    (shard : Nat) :
    sentTo (history ++ [(config, action)]) shard =
      sentTo history shard ++ ofShard shard (config.handed? action).toList := by
  simp only [sentTo, handed_concat, ofShard_append]

theorem countedBy_concat (history : History σ) (config : Config σ) (action : Config.Action)
    (shard : Nat) :
    countedBy (history ++ [(config, action)]) shard =
      countedBy history shard ++ ofShard shard (config.counted? action).toList := by
  simp only [countedBy, counted_concat, ofShard_append]

end History

namespace Config

def callsOf (config : Config σ) (shard : Nat) : List Publication :=
  config.publications.filter fun call => call.shard == shard

end Config

/-- The updates of the calls that the sink accepted. -/
def accepted (calls : List Publication) : List Update :=
  (calls.filter Publication.accepted).flatMap Publication.updates

theorem accepted_append (first second : List Publication) :
    accepted (first ++ second) = accepted first ++ accepted second := by
  simp only [accepted, List.filter_append, List.flatMap_append]

variable {world : World σ} {first : Config σ} {history : History σ} {config : Config σ}

theorem le_foldl_min {bound time : Nat} {times : List Nat}
    (above : ∀ due ∈ time :: times, bound ≤ due) : bound ≤ times.foldl min time := by
  induction times generalizing time with
  | nil => exact above time List.mem_cons_self
  | cons next rest ih =>
    apply ih
    intro due member
    rcases List.mem_cons.mp member with rfl | later
    · have first := above time (by simp)
      have second := above next (by simp)
      omega
    · exact above due (by simp [later])

theorem foldl_min_le {due time : Nat} {times : List Nat} (member : due ∈ time :: times) :
    times.foldl min time ≤ due := by
  induction times generalizing due time with
  | nil =>
    cases List.mem_singleton.mp member
    exact Nat.le_refl _
  | cons next rest ih =>
    rcases List.mem_cons.mp member with rfl | later
    · exact Nat.le_trans (ih List.mem_cons_self) (Nat.min_le_left _ _)
    · rcases List.mem_cons.mp later with rfl | further
      · exact Nat.le_trans (ih List.mem_cons_self) (Nat.min_le_right _ _)
      · exact ih (List.mem_cons_of_mem _ further)

/-- When the clock moves on, no task can take a step, and it moves to the next of the times that
tasks wait for. -/
theorem Config.of_advance {before after : Config σ} (taken : before.advance? world = some after) :
    before.outcome = none ∧ before.isQuiet world = true ∧
      ∃ time, before.now < time ∧ (∀ due ∈ before.timers, time ≤ due) ∧
        after = { before with now := time } := by
  unfold advance? at taken
  split at taken
  · rename_i still
    obtain ⟨open_, quiet⟩ := Bool.and_eq_true_iff.mp still
    split at taken
    · cases taken
    · rename_i time times waits
      cases taken
      refine ⟨Option.isNone_iff_eq_none.mp open_, quiet, _, le_foldl_min ?_, ?_, rfl⟩
      · intro due member
        rw [← waits] at member
        exact Nat.succ_le_of_lt (of_decide_eq_true (List.mem_filter.mp member).2)
      · rw [waits]
        exact fun due member => foldl_min_le member
  · cases taken

/-- Every order of steps that the virtual clock allows is a run. -/
theorem Run.of_step {after : Config σ} (run : Run world first history config)
    (step : Config.Step world config after) : ∃ later, Run world first later after := by
  cases step with
  | act action taken => exact ⟨_, run.act action taken⟩
  | advance taken =>
    obtain ⟨_, _, time, later, _, rfl⟩ := Config.of_advance taken
    exact ⟨history, run.pass time (Nat.le_of_lt later)⟩

theorem Schedule.run_of_next {schedule later : Schedule σ}
    (run : ∃ history, Run world first history schedule.config)
    (next : schedule.next world = some later) :
    ∃ history, Run world first history later.config :=
  keeps_of_next (fun config => ∃ history, Run world first history config)
    (fun _ _ ⟨_, earlier⟩ step => earlier.of_step step) run next

/-- The order of steps by turns is one of them. -/
theorem exists_history_of_run (world : World σ) (patience : Nat) (settings : PipelineSettings)
    (tally : Tally) (stopAt : Option Nat) (surroundings : σ) :
    ∃ history, Run world (Config.start settings tally stopAt surroundings) history
      (run world patience settings tally stopAt surroundings) :=
  Schedule.keeps_of_steps (fun config => ∃ history, Run world _ history config)
    (fun _ _ ⟨_, earlier⟩ step => earlier.of_step step) ⟨[], .start⟩

theorem Run.trans {later : History σ} {last : Config σ} (run : Run world first history config)
    (further : Run world config later last) : Run world first (history ++ later) last := by
  induction further with
  | start => rwa [List.append_nil]
  | act action earlier taken ih =>
    rw [← List.append_assoc]
    exact ih.act action taken
  | pass time earlier ahead ih => exact ih.pass time ahead

/-- What comes of given actions at given times, with the steps, if all of them can be taken. -/
def Config.replay (world : World σ) (config : Config σ) :
    List (Nat × Config.Action) → Option (History σ × Config σ)
  | [] => some ([], config)
  | (time, action) :: rest =>
    let before := { config with now := time }
    if config.now ≤ time then
      (before.act world action).bind fun after =>
        (after.replay world rest).map fun later => ((before, action) :: later.1, later.2)
    else none

theorem Run.of_replay {last : Config σ} {steps : List (Nat × Config.Action)}
    (replayed : config.replay world steps = some (history, last)) :
    Run world config history last := by
  induction steps generalizing config history with
  | nil =>
    cases replayed
    exact .start
  | cons step rest ih =>
    obtain ⟨time, action⟩ := step
    unfold Config.replay at replayed
    split at replayed
    · rename_i ahead
      obtain ⟨after, taken, further⟩ := Option.bind_eq_some_iff.mp replayed
      obtain ⟨⟨later, final⟩, found, same⟩ := Option.map_eq_some_iff.mp further
      cases same
      exact ((Run.start.pass time ahead).act action taken).trans (ih found)
    · cases replayed

/-- A step of a run cuts it in two. -/
theorem Run.split (run : Run world first history config) {before : Config σ}
    {action : Config.Action} (member : (before, action) ∈ history) :
    ∃ earlier later after, history = earlier ++ (before, action) :: later ∧
      Run world first earlier before ∧ before.act world action = some after ∧
      Run world after later config := by
  induction run with
  | start => cases member
  | @act history origin after last soFar taken ih =>
    rcases List.mem_append.mp member with old | new
    · obtain ⟨earlier, later, next, rfl, prior, step, rest⟩ := ih old
      exact ⟨earlier, later ++ [(origin, last)], next, by simp, prior, step, rest.act last taken⟩
    · cases List.mem_singleton.mp new
      exact ⟨history, [], after, rfl, soFar, taken, .start⟩
  | pass time soFar ahead ih =>
    obtain ⟨earlier, later, next, same, prior, step, rest⟩ := ih member
    exact ⟨earlier, later, next, same, prior, step, rest.pass time ahead⟩

theorem Run.of_returned (run : Run world first history config)
    (returned : first.outcome.isSome = true) : history = [] ∧ config.outcome = first.outcome := by
  induction run with
  | start => exact ⟨rfl, rfl⟩
  | act action earlier taken ih =>
    have open_ := (Config.change_of_act taken).1
    rw [ih.2] at open_
    rw [open_] at returned
    cases returned
  | pass time earlier ahead ih => exact ih

/-- Two shards, each with room for one word in its queue and for two pending updates. -/
def narrow : PipelineSettings :=
  { PipelineSettings.standard with shards := 2, maxBatch := 2, capacity := 1 }

def fiveSeas : Tally := Tally.ofList [("sea", 5)]

/-- Three records, the second without text. The words `red` and `sun` go to the second shard, and
`sea` to the first, whose sink answers as given. -/
def seaScript (deliveries : List Delivery) : Script :=
  ⟨[.answer (.batch [.ofLine 0 0 "Red sea, red sun."]), .sleep 3,
    .answer (.batch [⟨none, .null, 0, 1⟩, .ofLine 0 2 "sea"])], none, [deliveries, []], 0, 0⟩

def seaRun (deliveries : List Delivery) : Config Script :=
  run Script.world 1000 narrow fiveSeas none (seaScript deliveries)

end Pipeline

end WordTally
