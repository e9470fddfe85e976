import WordTally.Proofs.Lifecycle.Course
import WordTally.Proofs.Pipeline.Intake

set_option autoImplicit false

namespace WordTally

def Message.isFailure (message : Message) : Bool := message.haltReason.any StopReason.isFailure

theorem Message.halts_of_isFailure {message : Message} (isFailure : message.isFailure = true) :
    message.haltReason.isSome = true := by
  cases known : message.haltReason with
  | none =>
    rw [Message.isFailure, known] at isFailure
    cases isFailure
  | some reason => rfl

namespace Lifecycle

/-- A failure is reported, whatever halted intake before. -/
theorem failure_halt (state : Lifecycle) (reason : StopReason) :
    (state.halt reason).2.findSome? Effect.failure? =
      if reason.isFailure then some reason else none := by
  unfold halt
  cases reason.isFailure <;> cases state.accepting <;> rfl

end Lifecycle

namespace Pipeline

variable {σ : Type} {world : World σ}

/-- The invariant of the supervisor, given what the source has answered. -/
structure SupervisionInv (records : List RawRecord) (answers : List Poll) (config : Config σ) :
    Prop where
  running : config.outcome = none → config.lifecycle.phase = .running
  mail : ∀ message ∈ config.mail, message.haltReason.isSome = true
  halted : config.halted = true → config.lifecycle.stopReason.isSome = true
  blamed : config.failure.isSome = true → config.lifecycle.stopReason.isSome = true
  ended : config.dispatcher.left? = none →
    config.lifecycle.stopReason.isSome = true ∨ config.mail ≠ []
  failed : config.hasFailed →
    config.failure.isSome = true ∨ ∃ message ∈ config.mail, message.isFailure = true
  exhausted : config.lifecycle.stopReason = some .sourceExhausted ∨
      .sourceExhausted ∈ config.mail →
    config.dispatcher.left? = none ∧ config.counters.recordsRead = records.length ∧
      answers.getLast? = some .endOfStream

namespace SupervisionInv

variable {records : List RawRecord} {answers : List Poll} {config : Config σ}

/-- The supervisor hears a reason to halt, be it from its mail or from outside. -/
theorem deliver (inv : SupervisionInv records answers config) (open_ : config.outcome = none)
    {message : Message} {mail : List Message} {lines : List (Nat × LogLine)}
    (halts : message.haltReason.isSome = true)
    (rest : ∀ other ∈ mail, other ∈ config.mail)
    (dropped : ∀ other ∈ config.mail, other = message ∨ other ∈ mail)
    (told : message = .sourceExhausted → message ∈ config.mail) :
    SupervisionInv records answers ({ config with mail := mail }.delivered message lines) := by
  obtain ⟨reason, halts⟩ := Option.isSome_iff_exists.mp halts
  have running := inv.running open_
  have step := Lifecycle.step_of_haltReason running halts
  have known : (config.lifecycle.step message).1.stopReason =
      some (config.lifecycle.stopReason.getD reason) := by
    rw [step, Lifecycle.stopReason_halt running]
  have stopped : (config.lifecycle.step message).1.stopReason.isSome = true := by
    rw [known]
    rfl
  refine ⟨fun _ => ?_, fun other member => inv.mail other (rest other member), fun _ => stopped,
    fun _ => stopped, fun _ => .inl stopped, ?_, ?_⟩
  · change (config.lifecycle.step message).1.phase = .running
    rw [step, Lifecycle.phase_halt, running]
  · intro failed
    change (config.failure.or ((config.lifecycle.step message).2.findSome?
      Effect.failure?)).isSome = true ∨ _
    rw [step, Lifecycle.failure_halt]
    rcases inv.failed failed with blamed | ⟨other, member, isFailure⟩
    · left
      rw [Option.isSome_or, blamed]
      rfl
    · rcases dropped other member with same | kept
      · left
        rw [same, Message.isFailure, halts] at isFailure
        change reason.isFailure = true at isFailure
        rw [isFailure, Option.isSome_or]
        exact Bool.or_true _
      · exact .inr ⟨other, kept, isFailure⟩
  · intro exhausted
    apply inv.exhausted
    rcases exhausted with heard | unread
    · change (config.lifecycle.step message).1.stopReason = some .sourceExhausted at heard
      rw [known] at heard
      cases earlier : config.lifecycle.stopReason with
      | some first =>
        rw [earlier] at heard
        exact .inl heard
      | none =>
        rw [earlier] at heard
        cases heard
        right
        cases message <;> cases halts
        exact told rfl
    · exact .inr (rest _ unread)

end SupervisionInv

theorem ShardStep.mail_isFailure {config : Config σ} {shard : Nat} {worker next : Worker}
    {traffic : Traffic} (step : ShardStep config shard worker next traffic) :
    ∀ message ∈ traffic.mail, message.isFailure = true := by
  intro message member
  cases step <;> simp only [Traffic.quiet, Traffic.calling, List.not_mem_nil, List.mem_singleton]
    at member
  rw [member]
  rfl

/-- A shard fails only with a message to the supervisor. -/
theorem Config.Change.failed_or_told {before after : Config σ} {action : Config.Action}
    (change : Change world before action after) (failed : after.hasFailed) :
    before.hasFailed ∨ ∃ message ∈ after.mail, message.isFailure = true := by
  obtain ⟨shard, worker, found, ended⟩ := failed
  obtain ⟨former, present⟩ := change.exists_former found
  obtain ⟨next, traffic, moves⟩ := change.moves [] present
  rw [moves.found] at found
  cases found
  by_cases already : former.activity = .failed
  · exact .inl ⟨shard, former, present, already⟩
  · obtain ⟨error, rfl⟩ := moves.step.of_failing already ended
    exact .inr ⟨surrender shard error, moves.posted _ (List.mem_singleton_self _), rfl⟩

section Intake

variable {config : Config σ} {answer : Option Poll} {dispatcher : Dispatcher}
  {counters : Counters} {mail : List Message}

theorem IntakeStep.mail_halts (step : IntakeStep config answer dispatcher counters mail) :
    ∀ message ∈ mail, message.haltReason.isSome = true := by
  intro message member
  cases step <;> simp only [List.not_mem_nil, List.mem_singleton] at member
  all_goals
    rw [member]
    rfl

/-- Only the end of the stream is announced as such, and at once. -/
theorem IntakeStep.of_exhausted (step : IntakeStep config answer dispatcher counters mail)
    (told : .sourceExhausted ∈ mail) :
    config.dispatcher.left? = some ([], []) ∧ answer = some .endOfStream ∧
      dispatcher = .closing ∧ counters = config.counters := by
  cases step with
  | ended attempt asking => exact ⟨Dispatcher.left?_of_asking asking, rfl, rfl, rfl⟩
  | failed attempt error asking =>
    rw [List.mem_singleton] at told
    cases told
  | halted | batch | retried | awaited | stranded | died | resumed | emptied => cases told
  | read | skipped | handed | refused | closed => cases told

theorem IntakeStep.of_ended (step : IntakeStep config answer dispatcher counters mail)
    (ended : config.dispatcher.left? = none) :
    answer = none ∧ dispatcher = .finished ∧ counters = config.counters ∧ mail = [] := by
  cases step with
  | closed closing => exact ⟨rfl, rfl, rfl, rfl⟩
  | halted halt heeds =>
    obtain ⟨rest, left⟩ := Dispatcher.left?_of_heeds heeds
    rw [ended] at left
    cases left
  | batch attempt fresh asking =>
    rw [Dispatcher.left?_of_asking asking] at ended
    cases ended
  | retried attempt error asking | failed attempt error asking =>
    rw [Dispatcher.left?_of_asking asking] at ended
    cases ended
  | awaited attempt millis asking =>
    rw [Dispatcher.left?_of_asking asking] at ended
    cases ended
  | ended attempt asking | stranded attempt asking | died attempt asking =>
    rw [Dispatcher.left?_of_asking asking] at ended
    cases ended
  | resumed due attempt resting => rw [resting] at ended; cases ended
  | emptied reading => rw [reading] at ended; cases ended
  | read raw rest record reading => rw [reading] at ended; cases ended
  | skipped raw rest mismatch reading => rw [reading] at ended; cases ended
  | handed rest handing => rw [handing] at ended; cases ended
  | refused word words rest handing => rw [handing] at ended; cases ended

/-- Intake ends in silence only when it was halted, or when a shard has failed. -/
theorem IntakeStep.why_ended (step : IntakeStep config answer dispatcher counters mail)
    (ended : dispatcher.left? = none) :
    config.halted = true ∨ mail ≠ [] ∨ config.dispatcher.left? = none ∨
      ∃ word words rest, config.dispatcher = .handing (word :: words) rest ∧
        ∀ worker, config.workers[shardOf word config.workers.length]? = some worker →
          worker.isGone = true := by
  cases step with
  | halted halt => exact .inl halt
  | ended | failed => exact .inr (.inl (List.cons_ne_nil _ _))
  | closed closing => exact .inr (.inr (.inl (by rw [closing]; rfl)))
  | refused word words rest handing gone =>
    exact .inr (.inr (.inr ⟨word, words, rest, handing, gone⟩))
  | batch | retried | awaited | stranded | died | resumed | emptied => cases ended
  | read | skipped | handed => cases ended

end Intake

section Run

variable {settings : PipelineSettings} {tally : Tally} {stopAt : Option Nat} {surroundings : σ}
  {history : History σ} {config : Config σ}

/-- The last message changes nothing that was known about the run. -/
theorem Config.delivered_drained (running : config.lifecycle.phase = .running)
    (known : config.lifecycle.stopReason.isSome = true) (lines : List (Nat × LogLine)) :
    (config.delivered .drained lines).lifecycle.stopReason = config.lifecycle.stopReason ∧
      (config.delivered .drained lines).failure = config.failure := by
  have step := Lifecycle.step_drained running known
  simp only [Config.delivered, step, List.findSome?_cons, List.findSome?_nil, Effect.failure?,
    Option.or_none, and_self]

namespace SupervisionInv

variable {records : List RawRecord} {answers : List Poll}

theorem intake (inv : SupervisionInv records answers config) {answer : Option Poll}
    {dispatcher : Dispatcher} {counters : Counters} {mail : List Message}
    (step : IntakeStep config answer dispatcher counters mail)
    (whole : config.dispatcher.left? = some ([], []) →
      config.counters.recordsRead = records.length)
    (cut : ∀ word words rest, config.dispatcher = .handing (word :: words) rest →
      (∀ worker, config.workers[shardOf word config.workers.length]? = some worker →
        worker.isGone = true) → config.hasFailed)
    (next : σ) (lines : List LogLine) :
    SupervisionInv (records ++ answer.toList.flatMap Poll.records) (answers ++ answer.toList)
      (config.moved answer dispatcher counters mail next lines) := by
  refine ⟨inv.running, ?_, inv.halted, inv.blamed, ?_, ?_, ?_⟩
  · intro message member
    rcases List.mem_append.mp member with old | new
    · exact inv.mail message old
    · exact step.mail_halts message new
  · intro ended
    change config.lifecycle.stopReason.isSome = true ∨ config.mail ++ mail ≠ []
    rcases step.why_ended ended with halted | told | already | ⟨word, words, rest, handing, gone⟩
    · exact .inl (inv.halted halted)
    · exact .inr (List.append_ne_nil_of_right_ne_nil _ told)
    · exact (inv.ended already).imp_right fun unread => List.append_ne_nil_of_left_ne_nil unread _
    · rcases inv.failed (cut word words rest handing gone) with blamed | ⟨message, member, _⟩
      · exact .inl (inv.blamed blamed)
      · exact .inr (List.append_ne_nil_of_left_ne_nil (List.ne_nil_of_mem member) _)
  · intro failed
    refine (inv.failed failed).imp_right ?_
    rintro ⟨message, member, isFailure⟩
    exact ⟨message, List.mem_append_left _ member, isFailure⟩
  · intro exhausted
    have known : (config.lifecycle.stopReason = some .sourceExhausted ∨
        .sourceExhausted ∈ config.mail) ∨ .sourceExhausted ∈ mail := by
      rcases exhausted with heard | unread
      · exact .inl (.inl heard)
      · exact (List.mem_append.mp unread).imp_left .inr
    rcases known with earlier | now
    · obtain ⟨ended, read, last⟩ := inv.exhausted earlier
      obtain ⟨rfl, rfl, rfl, rfl⟩ := step.of_ended ended
      simp only [Option.toList_none, List.flatMap_nil, List.append_nil]
      exact ⟨rfl, read, last⟩
    · obtain ⟨left, rfl, rfl, rfl⟩ := step.of_exhausted now
      refine ⟨rfl, ?_, ?_⟩
      · change config.counters.recordsRead = (records ++ []).length
        rw [whole left, List.append_nil]
      · exact List.getLast?_concat

theorem hand (inv : SupervisionInv records answers config) {word : String} {words : List String}
    {rest : List RawRecord} {worker : Worker} {shard : Nat} {counters : Counters}
    (handing : config.dispatcher = .handing (word :: words) rest)
    (alive : worker.isGone = false) :
    SupervisionInv records answers
      { config with
        workers := config.workers.set shard { worker with queue := worker.queue ++ [word] }
        counters := counters
        dispatcher := .handing words rest } := by
  refine ⟨inv.running, inv.mail, inv.halted, inv.blamed, nofun, ?_, ?_⟩
  · rintro ⟨other, failing, found, failed⟩
    apply inv.failed
    by_cases here : shard = other
    · subst here
      have bound := (List.getElem?_eq_some_iff.mp found).1
      rw [List.length_set] at bound
      rw [List.getElem?_set_self bound] at found
      cases found
      simp only [Worker.isGone] at alive failed
      rw [failed] at alive
      cases alive
    · rw [List.getElem?_set_ne here] at found
      exact ⟨other, failing, found, failed⟩
  · intro exhausted
    have ended := (inv.exhausted exhausted).1
    rw [handing] at ended
    cases ended

/-- Once everybody is gone and all mail is read, the supervisor knows why intake ended. -/
theorem known_of_gone (inv : SupervisionInv records answers config) (silent : config.mail = [])
    (gone : config.allGone = true) (living : config.dispatcher ≠ .panicked) :
    config.lifecycle.stopReason.isSome = true := by
  have ended := Dispatcher.left?_of_gone (Bool.and_eq_true_iff.mp gone).1 living
  exact (inv.ended ended).resolve_right fun unread => unread silent

theorem conclude (inv : SupervisionInv records answers config) (open_ : config.outcome = none)
    (silent : config.mail = []) (gone : config.allGone = true)
    (alive : config.hasDied = false) (lines : List (Nat × LogLine)) (outcome : Outcome) :
    SupervisionInv records answers
      { config.delivered .drained lines with outcome := some outcome } := by
  have known := inv.known_of_gone silent gone (Config.dispatcher_ne_of_alive alive)
  obtain ⟨reason, failure⟩ := Config.delivered_drained (inv.running open_) known lines
  refine ⟨nofun, inv.mail, fun _ => ?_, fun _ => ?_, fun _ => .inl ?_, ?_, ?_⟩
  · rw [reason]
    exact known
  · rw [reason]
    exact known
  · rw [reason]
    exact known
  · intro failed
    rw [failure]
    exact inv.failed failed
  · rw [reason]
    exact inv.exhausted

theorem work (inv : SupervisionInv records answers config) {shard : Nat} {worker after : Worker}
    {traffic : Traffic} (step : ShardStep config shard worker after traffic) (next : σ)
    (told : (config.worked shard after traffic next).hasFailed →
      config.hasFailed ∨
        ∃ message ∈ (config.worked shard after traffic next).mail, message.isFailure = true) :
    SupervisionInv records answers (config.worked shard after traffic next) := by
  refine ⟨inv.running, ?_, inv.halted, inv.blamed, ?_, ?_, ?_⟩
  · intro message member
    rcases List.mem_append.mp member with old | new
    · exact inv.mail message old
    · exact Message.halts_of_isFailure (step.mail_isFailure message new)
  · intro ended
    exact (inv.ended ended).imp_right fun unread => List.append_ne_nil_of_left_ne_nil unread _
  · intro failed
    rcases told failed with already | told
    · refine (inv.failed already).imp_right ?_
      rintro ⟨message, member, isFailure⟩
      exact ⟨message, List.mem_append_left _ member, isFailure⟩
    · exact .inr told
  · intro exhausted
    apply inv.exhausted
    refine exhausted.imp_right fun unread => ?_
    rcases List.mem_append.mp unread with old | new
    · exact old
    · have isFailure := step.mail_isFailure _ new
      cases isFailure

end SupervisionInv

theorem Run.supervisionInv
    (run : Run world (Config.start settings tally stopAt surroundings) history config) :
    SupervisionInv (History.records world history) (History.answers world history) config := by
  induction run with
  | start =>
    refine ⟨fun _ => rfl, ?_, ?_, ?_, ?_, ?_, ?_⟩
    · intro message member
      cases member
    · intro halted
      cases halted
    · intro blamed
      cases blamed
    · intro ended
      cases ended
    · rintro ⟨shard, worker, found, failed⟩
      obtain ⟨share, _, rfl⟩ := start_worker found
      cases failed
    · intro exhausted
      rcases exhausted with heard | unread
      · cases heard
      · cases unread
  | @act history before after action earlier taken ih =>
    obtain ⟨open_, change⟩ := Config.change_of_act taken
    rw [History.records_concat, History.answers_concat]
    cases change with
    | request =>
      simp only [Config.answer?, Option.toList_none, List.flatMap_nil, List.append_nil]
      exact ⟨ih.running, ih.mail, ih.halted, ih.blamed, ih.ended, ih.failed, ih.exhausted⟩
    | heed lines =>
      simp only [Config.answer?, Option.toList_none, List.flatMap_nil, List.append_nil]
      have seen : SupervisionInv (History.records world history) (History.answers world history)
          { before with stopSeen := true } :=
        ⟨ih.running, ih.mail, ih.halted, ih.blamed, ih.ended, ih.failed, ih.exhausted⟩
      refine seen.deliver open_ rfl (fun _ => id) (fun _ => .inr) ?_
      intro same
      cases same
    | hear message mail lines first =>
      simp only [Config.answer?, Option.toList_none, List.flatMap_nil, List.append_nil]
      refine ih.deliver open_ (ih.mail message ?_) ?_ ?_ ?_
      all_goals rw [first]
      · exact List.mem_cons_self
      · exact fun _ => List.mem_cons_of_mem message
      · exact fun _ => List.mem_cons.mp
      · exact fun _ => List.mem_cons_self
    | died =>
      simp only [Config.answer?, Option.toList_none, List.flatMap_nil, List.append_nil]
      refine ⟨?_, ih.mail, ih.halted, ih.blamed, ih.ended, ih.failed, ih.exhausted⟩
      intro running
      cases running
    | returned lines silent gone alive =>
      simp only [Config.answer?, Option.toList_none, List.flatMap_nil, List.append_nil]
      exact ih.conclude open_ silent gone alive lines _
    | intake step asked unhanded next lines =>
      rw [asked]
      refine ih.intake step ?_ ?_ next lines
      · intro left
        have rest := (earlier.intakeInv.left [] [] left).1
        rw [List.drop_eq_nil_iff] at rest
        exact Nat.le_antisymm earlier.intakeInv.read rest
      · intro word words rest handing gone
        exact earlier.failed_of_gone (by rw [handing]; rfl) gone
    | hand word words rest worker handing found alive room =>
      rw [answer?_of_handing handing]
      simp only [Option.toList_none, List.flatMap_nil, List.append_nil]
      exact ih.hand handing alive
    | work mine found step unsent counted next =>
      rw [answer?_of_worker? mine]
      simp only [Option.toList_none, List.flatMap_nil, List.append_nil]
      have change : Config.Change world before action (before.worked _ _ _ next) :=
        .work mine found step unsent counted next
      exact ih.work step next change.failed_or_told
  | pass time earlier later ih =>
    exact ⟨ih.running, ih.mail, ih.halted, ih.blamed, ih.ended, ih.failed, ih.exhausted⟩

/-- A run returns when everybody is gone and all mail is read. -/
theorem Run.returned
    (run : Run world (Config.start settings tally stopAt surroundings) history config)
    {outcome : Outcome} (result : config.outcome = some outcome) :
    config.allGone = true ∧ config.mail = [] ∧
      (config.dispatcher = .panicked ∧ outcome = .panicked ∨
        config.dispatcher ≠ .panicked ∧ outcome = config.verdict) := by
  induction run with
  | start => cases result
  | @act history before after action earlier taken ih =>
    obtain ⟨open_, change⟩ := Config.change_of_act taken
    cases change with
    | request | heed | hear | intake | hand | work =>
      change before.outcome = some outcome at result
      rw [open_] at result
      cases result
    | died silent gone lost =>
      cases result
      exact ⟨gone, silent, .inl ⟨earlier.hasDied_iff.mp lost, rfl⟩⟩
    | returned lines silent gone alive =>
      cases result
      exact ⟨gone, silent, .inr ⟨Config.dispatcher_ne_of_alive alive, rfl⟩⟩
  | pass time earlier later ih => exact ih result

end Run

end Pipeline

end WordTally
