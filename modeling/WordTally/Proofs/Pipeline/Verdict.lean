import WordTally.Proofs.Pipeline.Accounting
import WordTally.Proofs.Pipeline.Refinement

set_option autoImplicit false

namespace WordTally

def Message.failure? (message : Message) : Option StopReason :=
  message.haltReason.filter StopReason.isFailure

namespace Lifecycle

variable {state : Lifecycle} {message : Message}

theorem stopReason_step (running : state.phase = .running)
    (halts : message.haltReason.isSome = true) :
    (state.step message).1.stopReason = state.stopReason.or message.haltReason := by
  obtain ⟨reason, known⟩ := Option.isSome_iff_exists.mp halts
  rw [step_of_haltReason running known, stopReason_halt running, known]
  cases state.stopReason <;> rfl

theorem failure_step (running : state.phase = .running)
    (halts : message.haltReason.isSome = true) :
    (state.step message).2.findSome? Effect.failure? = message.failure? := by
  obtain ⟨reason, known⟩ := Option.isSome_iff_exists.mp halts
  rw [step_of_haltReason running known, failure_halt, Message.failure?, known]
  cases isFailure : reason.isFailure <;> simp [Option.filter, isFailure]

end Lifecycle

namespace Pipeline

variable {σ : Type} {world : World σ}

/-- Who tells the supervisor what: the dispatcher of the source, and a worker of its sink. -/
inductive Tells : Config.Action → Message → Prop where
  | sourceExhausted : Tells .dispatch .sourceExhausted
  | sourceFailed (text : String) : Tells .dispatch (.sourceFailed text)
  | sinkFailed {action : Config.Action} {shard : Nat} (mine : action.worker? = some shard)
      (text : String) : Tells action (.sinkFailed text)

theorem Tells.ne_stopRequested {action : Config.Action} {message : Message}
    (tells : Tells action message) : message ≠ .stopRequested := by
  cases tells <;> exact nofun

theorem IntakeStep.tells {config : Config σ} {answer : Option Poll} {dispatcher : Dispatcher}
    {counters : Counters} {mail : List Message}
    (step : IntakeStep config answer dispatcher counters mail) :
    ∀ message ∈ mail, Tells .dispatch message := by
  intro message member
  cases step <;> simp only [List.not_mem_nil, List.mem_singleton] at member
  case ended => exact member ▸ .sourceExhausted
  case failed => exact member ▸ .sourceFailed _

theorem ShardStep.tells {config : Config σ} {shard : Nat} {worker next : Worker}
    {traffic : Traffic} (step : ShardStep config shard worker next traffic)
    {action : Config.Action} (mine : action.worker? = some shard) :
    ∀ message ∈ traffic.mail, Tells action message := by
  intro message member
  cases step <;> simp only [Traffic.quiet, Traffic.calling, List.not_mem_nil, List.mem_singleton]
    at member
  case failed => exact member ▸ .sinkFailed mine _

namespace Config

/-- The messages that a step sends to the supervisor. -/
def posted (world : World σ) (config : Config σ) (action : Action) : List Message :=
  match config.act world action with
  | some after => after.mail.drop config.mail.length
  | none => []

/-- The message that the supervisor hears in a step, from its mail or from outside. -/
def heard? (config : Config σ) : Action → Option Message
  | .heed => some .stopRequested
  | .supervise => config.mail.head?
  | _ => none

variable {before after : Config σ} {action : Action}

theorem posted_eq {mail : List Message} (taken : before.act world action = some after)
    (grown : after.mail = before.mail ++ mail) : before.posted world action = mail := by
  simp only [posted, taken, grown, List.drop_left]

theorem heard?_of_worker? {shard : Nat} (mine : action.worker? = some shard) :
    before.heard? action = none := by
  cases action <;> first | rfl | cases mine

theorem Change.tells (change : Change world before action after)
    (taken : before.act world action = some after) :
    ∀ message ∈ before.posted world action, Tells action message := by
  cases change with
  | request | heed | died | returned | hand =>
    rw [posted_eq taken (List.append_nil _).symm]
    exact nofun
  | hear message mail lines first =>
    have read : before.posted world .supervise = [] := by
      simp only [posted, taken, delivered, first, List.length_cons]
      exact List.drop_of_length_le (Nat.le_succ _)
    rw [read]
    exact nofun
  | intake step asked unhanded next lines =>
    rw [posted_eq taken rfl]
    exact step.tells
  | work mine found step unsent counted next =>
    rw [posted_eq taken rfl]
    exact step.tells mine

/-- The mail is a queue: what was there and what is sent is heard first or still there. -/
theorem Change.mail_order (change : Change world before action after)
    (taken : before.act world action = some after)
    (unrequested : ∀ message ∈ before.mail, message ≠ .stopRequested) :
    before.mail ++ before.posted world action =
      (before.heard? action).toList.filter (· != .stopRequested) ++ after.mail := by
  cases change with
  | request | heed | hand =>
    rw [posted_eq taken (List.append_nil _).symm]
    simp [heard?, delivered]
  | died silent | returned lines silent =>
    rw [posted_eq taken (List.append_nil _).symm]
    simp [heard?, silent, delivered]
  | hear message mail lines first =>
    have read : before.posted world .supervise = [] := by
      simp only [posted, taken, delivered, first, List.length_cons]
      exact List.drop_of_length_le (Nat.le_succ _)
    have other : message ≠ .stopRequested := by
      apply unrequested
      rw [first]
      exact List.mem_cons_self
    simp [read, heard?, first, delivered, other]
  | intake step asked unhanded next lines =>
    rw [posted_eq taken rfl]
    rfl
  | work mine found step unsent counted next =>
    rw [posted_eq taken rfl, heard?_of_worker? mine]
    rfl

end Config

namespace History

def posted (world : World σ) (history : History σ) : List (Config.Action × Message) :=
  history.flatMap fun step => (step.1.posted world step.2).map (Prod.mk step.2)

/-- The messages that the supervisor has heard, the oldest first. -/
def heard (history : History σ) : List Message :=
  history.filterMap fun step => step.1.heard? step.2

theorem posted_concat (world : World σ) (history : History σ) (config : Config σ)
    (action : Config.Action) :
    posted world (history ++ [(config, action)]) =
      posted world history ++ (config.posted world action).map (Prod.mk action) := by
  simp only [posted, List.flatMap_append, List.flatMap_singleton]

theorem heard_append (earlier later : History σ) :
    heard (earlier ++ later) = heard earlier ++ heard later :=
  List.filterMap_append

theorem heard_concat (history : History σ) (config : Config σ) (action : Config.Action) :
    heard (history ++ [(config, action)]) = heard history ++ (config.heard? action).toList := by
  rw [heard_append]
  cases message : config.heard? action <;> simp [heard, message]

end History

/-- What the supervisor knows is what it has heard, and it has heard all but its mail. -/
structure HeardInv (posted : List (Config.Action × Message)) (heard : List Message)
    (config : Config σ) : Prop where
  tells : ∀ sent ∈ posted, Tells sent.1 sent.2
  order : posted.map Prod.snd = heard.filter (· != .stopRequested) ++ config.mail
  reason : config.lifecycle.stopReason = heard.findSome? Message.haltReason
  failure : config.failure = heard.findSome? Message.failure?

theorem HeardInv.unrequested {posted : List (Config.Action × Message)} {heard : List Message}
    {config : Config σ} (inv : HeardInv posted heard config) :
    ∀ message ∈ config.mail, message ≠ .stopRequested := by
  intro message member
  have sent : message ∈ posted.map Prod.snd := by
    rw [inv.order]
    exact List.mem_append_right _ member
  obtain ⟨item, present, rfl⟩ := List.mem_map.mp sent
  exact (inv.tells item present).ne_stopRequested

theorem Config.delivered_knows (config : Config σ) {heard : List Message} {message : Message}
    (running : config.lifecycle.phase = .running) (halts : message.haltReason.isSome = true)
    (reason : config.lifecycle.stopReason = heard.findSome? Message.haltReason)
    (failure : config.failure = heard.findSome? Message.failure?)
    (lines : List (Nat × LogLine)) :
    (config.delivered message lines).lifecycle.stopReason =
        (heard ++ [message]).findSome? Message.haltReason ∧
      (config.delivered message lines).failure =
        (heard ++ [message]).findSome? Message.failure? := by
  constructor
  · change (config.lifecycle.step message).1.stopReason = _
    rw [Lifecycle.stopReason_step running halts, reason, List.findSome?_append,
      List.findSome?_singleton]
  · change config.failure.or _ = _
    rw [Lifecycle.failure_step running halts, failure, List.findSome?_append,
      List.findSome?_singleton]

section Run

variable {settings : PipelineSettings} {seed : Tally} {stopAt : Option Nat} {surroundings : σ}
  {history : History σ} {config : Config σ}

theorem Run.heardInv
    (run : Run world (Config.start settings seed stopAt surroundings) history config) :
    HeardInv (History.posted world history) (History.heard history) config := by
  induction run with
  | start => exact ⟨nofun, rfl, rfl, rfl⟩
  | @act history before after action earlier taken ih =>
    obtain ⟨open_, change⟩ := Config.change_of_act taken
    have running := earlier.supervisionInv.running open_
    rw [History.posted_concat, History.heard_concat]
    have tells : ∀ sent ∈ History.posted world history ++
        (before.posted world action).map (Prod.mk action), Tells sent.1 sent.2 := by
      intro sent member
      rcases List.mem_append.mp member with old | new
      · exact ih.tells sent old
      · obtain ⟨message, present, rfl⟩ := List.mem_map.mp new
        exact change.tells taken message present
    have order : (History.posted world history ++
        (before.posted world action).map (Prod.mk action)).map Prod.snd =
          (History.heard history ++ (before.heard? action).toList).filter (· != .stopRequested) ++
            after.mail := by
      rw [List.map_append, ih.order, List.map_map, List.filter_append, List.append_assoc,
        List.append_assoc, ← change.mail_order taken ih.unrequested]
      simp
    have knows : after.lifecycle.stopReason =
          (History.heard history ++ (before.heard? action).toList).findSome? Message.haltReason ∧
        after.failure =
          (History.heard history ++ (before.heard? action).toList).findSome?
            Message.failure? := by
      cases change with
      | request | intake | hand =>
        simp only [Config.heard?, Option.toList_none, List.append_nil]
        exact ⟨ih.reason, ih.failure⟩
      | heed lines =>
        exact Config.delivered_knows { before with stopSeen := true } running rfl
          ih.reason ih.failure lines
      | hear message mail lines first =>
        simp only [Config.heard?, first, List.head?_cons, Option.toList_some]
        have halts := earlier.supervisionInv.mail message (by rw [first]; exact List.mem_cons_self)
        exact Config.delivered_knows { before with mail := mail } running halts
          ih.reason ih.failure lines
      | died silent =>
        simp only [Config.heard?, silent, List.head?_nil, Option.toList_none, List.append_nil]
        exact ⟨ih.reason, ih.failure⟩
      | returned lines silent gone alive =>
        simp only [Config.heard?, silent, List.head?_nil, Option.toList_none, List.append_nil]
        have known := earlier.supervisionInv.known_of_gone silent gone
          (Config.dispatcher_ne_of_alive alive)
        obtain ⟨reason, failure⟩ := Config.delivered_drained running known lines
        exact ⟨reason.trans ih.reason, failure.trans ih.failure⟩
      | work mine =>
        rw [Config.heard?_of_worker? mine]
        simp only [Option.toList_none, List.append_nil]
        exact ⟨ih.reason, ih.failure⟩
    exact ⟨tells, order, knows.1, knows.2⟩
  | pass time earlier later ih => exact ⟨ih.tells, ih.order, ih.reason, ih.failure⟩

/-- A reason to halt is never exchanged for another one. -/
theorem Run.stopReason_kept
    (run : Run world (Config.start settings seed stopAt surroundings) history config)
    {before : Config σ} {action : Config.Action} (member : (before, action) ∈ history)
    {reason : StopReason} (known : before.lifecycle.stopReason = some reason) :
    config.lifecycle.stopReason = some reason := by
  obtain ⟨earlier, later, after, rfl, prior, _, _⟩ := run.split member
  rw [run.heardInv.reason, History.heard_append, List.findSome?_append, ← prior.heardInv.reason,
    known, Option.some_or]

/-- A run that has returned without a dead task knows why intake was halted. -/
theorem Run.stopReason_of_returned
    (run : Run world (Config.start settings seed stopAt surroundings) history config)
    {outcome : Outcome} (result : config.outcome = some outcome) (alive : outcome ≠ .panicked) :
    config.lifecycle.stopReason.isSome = true := by
  obtain ⟨gone, silent, ends⟩ := run.returned result
  rcases ends with ⟨_, panicked⟩ | ⟨living, _⟩
  · exact absurd panicked alive
  · exact run.supervisionInv.known_of_gone silent gone living

/-- When the supervisor ends a run it has heard a reason to halt, so intake is not open any more. -/
theorem Run.not_accepting_of_drained
    (run : Run world (Config.start settings seed stopAt surroundings) history config)
    {outcome : Outcome} (result : config.outcome = some outcome) (alive : outcome ≠ .panicked)
    {before : Config σ} (member : (before, .supervise) ∈ history) (silent : before.mail = []) :
    before.lifecycle.stopReason.isSome = true ∧ before.lifecycle.accepting = false := by
  obtain ⟨earlier, later, after, rfl, prior, taken, rest⟩ := run.split member
  have known : before.lifecycle.stopReason.isSome = true := by
    cases (Config.change_of_act taken).2 with
    | hear message mail lines first =>
      rw [silent] at first
      cases first
    | died =>
      have same := (rest.of_returned rfl).2
      rw [result] at same
      exact absurd (Option.some.inj same) alive
    | returned lines silent gone lives =>
      exact prior.supervisionInv.known_of_gone silent gone (Config.dispatcher_ne_of_alive lives)
    | work mine => cases mine
  obtain ⟨reason, same⟩ := Option.isSome_iff_exists.mp known
  exact ⟨known, by simp [Lifecycle.accepting, same]⟩

/-- All that was sent has been heard when a run returns, in the order in which it was sent. -/
theorem Run.posted_of_returned
    (run : Run world (Config.start settings seed stopAt surroundings) history config)
    {outcome : Outcome} (result : config.outcome = some outcome) :
    (History.posted world history).map Prod.snd =
      (History.heard history).filter (· != .stopRequested) := by
  have order := run.heardInv.order
  rwa [(run.returned result).2.1, List.append_nil] at order

/-- The failures that were heard are those that the dispatcher and the workers sent. -/
theorem Run.failure_isSome_iff
    (run : Run world (Config.start settings seed stopAt surroundings) history config)
    {outcome : Outcome} (result : config.outcome = some outcome) :
    config.failure.isSome = true ↔
      (∃ text, (.dispatch, .sourceFailed text) ∈ History.posted world history) ∨
        ∃ action shard text, action.worker? = some shard ∧
          (action, .sinkFailed text) ∈ History.posted world history := by
  have order := run.posted_of_returned result
  rw [run.heardInv.failure, List.findSome?_isSome_iff]
  constructor
  · rintro ⟨message, member, isFailure⟩
    have ordinary : message ≠ .stopRequested := by
      rintro rfl
      cases isFailure
    have sent : message ∈ (History.posted world history).map Prod.snd := by
      rw [order]
      exact List.mem_filter.mpr ⟨member, bne_iff_ne.mpr ordinary⟩
    obtain ⟨⟨action, _⟩, present, rfl⟩ := List.mem_map.mp sent
    cases run.heardInv.tells _ present with
    | sourceExhausted => cases isFailure
    | sourceFailed text => exact .inl ⟨text, present⟩
    | sinkFailed mine text => exact .inr ⟨action, _, text, mine, present⟩
  · intro sent
    have heard : ∀ item ∈ History.posted world history, item.2 ∈ History.heard history := by
      intro item present
      have kept : item.2 ∈ (History.heard history).filter (· != .stopRequested) := by
        rw [← order]
        exact List.mem_map_of_mem present
      exact (List.mem_filter.mp kept).1
    rcases sent with ⟨text, present⟩ | ⟨action, shard, text, _, present⟩
    · exact ⟨_, heard _ present, rfl⟩
    · exact ⟨_, heard _ present, rfl⟩

theorem Config.verdict_failed {reason : StopReason} {report : Report}
    (bad : config.verdict = .failed reason report) : config.failure = some reason := by
  unfold verdict at bad
  split at bad
  · rename_i known
    rw [known, (Outcome.failed.inj bad).1]
  · cases bad

theorem not_failure_of_heard {heard : List Message} {reason : StopReason}
    (first : heard.findSome? Message.haltReason = some reason)
    (clean : heard.findSome? Message.failure? = none) :
    reason = .requested ∨ reason = .sourceExhausted := by
  obtain ⟨message, member, halts⟩ := List.exists_of_findSome?_eq_some first
  have harmless := List.findSome?_eq_none_iff.mp clean message member
  rw [Message.failure?, halts] at harmless
  cases reason with
  | requested => exact .inl rfl
  | sourceExhausted => exact .inr rfl
  | sourceFailed text => cases harmless
  | sinkFailed text => cases harmless

/-- How a run ends in which no task dies. It fails exactly when the dispatcher or a
worker has sent a failure, and then with the first one that the supervisor heard. Its report gives
the first reason to halt that the supervisor heard at all, which nothing later has changed, and
without a failure this is a request or the end of the source. All that was sent has been heard, and
before the supervisor ends the run it knows a reason. -/
theorem Run.verdict_of_heard
    (run : Run world (Config.start settings seed stopAt surroundings) history config)
    {outcome : Outcome} (result : config.outcome = some outcome) (alive : outcome ≠ .panicked) :
    let posted := History.posted world history
    let heard := History.heard history
    ((∃ reason report, outcome = .failed reason report) ↔
        (∃ text, (.dispatch, .sourceFailed text) ∈ posted) ∨
          ∃ action shard text, action.worker? = some shard ∧
            (action, .sinkFailed text) ∈ posted) ∧
      (∀ reason report, outcome = .failed reason report →
        heard.findSome? Message.failure? = some reason) ∧
      (∀ report, outcome.report? = some report →
        heard.findSome? Message.haltReason = some report.stopReason ∧
        config.lifecycle.stopReason = some report.stopReason ∧
        ∀ before action reason, (before, action) ∈ history →
          before.lifecycle.stopReason = some reason → report.stopReason = reason) ∧
      (∀ report, outcome = .completed report →
        report.stopReason = .requested ∨ report.stopReason = .sourceExhausted) ∧
      posted.map Prod.snd = heard.filter (· != .stopRequested) ∧
      ∀ before, (before, .supervise) ∈ history → before.mail = [] →
        before.lifecycle.stopReason.isSome = true ∧ before.lifecycle.accepting = false := by
  intro posted heard
  have verdict : outcome = config.verdict := by
    rcases (run.returned result).2.2 with ⟨_, panicked⟩ | ⟨_, verdict⟩
    · exact absurd panicked alive
    · exact verdict
  obtain ⟨first, known⟩ :=
    Option.isSome_iff_exists.mp (run.stopReason_of_returned result alive)
  have told : ∀ report, outcome.report? = some report → report.stopReason = first := by
    intro report reported
    rw [run.report_eq result reported, Config.report, known, Option.getD_some]
  have fails : (∃ reason report, outcome = .failed reason report) ↔
      config.failure.isSome = true := by
    rw [verdict, Config.verdict]
    cases config.failure <;> simp
  refine ⟨fails.trans (run.failure_isSome_iff result), ?_, ?_, ?_, run.posted_of_returned result,
    fun before member silent => run.not_accepting_of_drained result alive member silent⟩
  · intro reason report failed
    rw [← run.heardInv.failure]
    exact Config.verdict_failed (verdict.symm.trans failed)
  · intro report reported
    rw [told report reported, ← run.heardInv.reason]
    refine ⟨known, known, ?_⟩
    intro before action reason member earlier
    have kept := run.stopReason_kept member earlier
    rw [known] at kept
    exact Option.some.inj kept
  · intro report completed
    have clean := (Config.verdict_completed (verdict.symm.trans completed)).1
    rw [told report (by rw [completed]; rfl)]
    have first_heard : heard.findSome? Message.haltReason = some first := by
      rw [← run.heardInv.reason, known]
    have none_failed : heard.findSome? Message.failure? = none := by
      rw [← run.heardInv.failure, clean]
    exact not_failure_of_heard first_heard none_failed

/-- In this run the source ends first, and then the sink of the first shard fails. -/
theorem seaRun_verdict :
    ∃ history, Run Script.world
        (Config.start narrow fiveSeas none (seaScript [⟨1, some (.rejected "full")⟩])) history
        (seaRun [⟨1, some (.rejected "full")⟩]) ∧
      (History.heard history).findSome? Message.haltReason = some .sourceExhausted ∧
      (History.heard history).findSome? Message.failure? =
        some (.sinkFailed "shard 0: sink rejected updates: full") := by
  obtain ⟨history, sea⟩ := exists_history_of_run Script.world 1000 narrow fiveSeas none
    (seaScript [⟨1, some (.rejected "full")⟩])
  have result : (seaRun [⟨1, some (.rejected "full")⟩]).outcome = some (.failed
      (.sinkFailed "shard 0: sink rejected updates: full")
      ⟨3, 1, 5, 3, .sourceExhausted, Tally.ofList [("red", 2), ("sea", 7), ("sun", 1)]⟩) := by
    decide +kernel
  obtain ⟨_, failure, told, _⟩ := sea.verdict_of_heard result nofun
  exact ⟨history, sea, (told _ rfl).1, failure _ _ rfl⟩

end Run

end Pipeline

end WordTally
