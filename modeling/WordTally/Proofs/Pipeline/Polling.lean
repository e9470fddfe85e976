import WordTally.Proofs.Pipeline.Stopping
import WordTally.Proofs.Pipeline.Verdict

set_option autoImplicit false

namespace WordTally

namespace Poll

/-- The poll is over; one that has to wait still goes on. -/
def isOutcome : Poll → Bool
  | .wait _ => false
  | _ => true

def isSetback : Poll → Bool
  | .failed error => error.isTransient
  | _ => false

def isBatchOrError : Poll → Bool
  | .batch _ | .failed _ => true
  | _ => false

theorem flatMap_records_outcomes (answers : List Poll) :
    (answers.filter isOutcome).flatMap records = answers.flatMap records := by
  induction answers with
  | nil => rfl
  | cons answer rest ih =>
    rw [List.filter_cons, List.flatMap_cons, ← ih]
    cases answer <;> rfl

end Poll

def Message.sourceError? : Message → Option String
  | .sourceFailed text => some text
  | _ => none

namespace Pipeline

variable {σ : Type} {world : World σ}

/-- How many polls in a row were in vain, up to the last one. -/
def setbacks (outcomes : List Poll) : Nat := (outcomes.reverse.takeWhile Poll.isSetback).length

theorem setbacks_concat (outcomes : List Poll) (poll : Poll) :
    setbacks (outcomes ++ [poll]) = if poll.isSetback then setbacks outcomes + 1 else 0 := by
  rw [setbacks, List.reverse_append, List.reverse_singleton, List.singleton_append,
    List.takeWhile_cons]
  split <;> rfl

/-- The error after such outcomes is the last one: no retry can mend it, or there is none left. -/
def Spent (retry : RetryPolicy) (outcomes : List Poll) (error : SourceError) : Prop :=
  error.isTransient = false ∨ retry.maxRetries ≤ setbacks outcomes

theorem spent_iff {retry : RetryPolicy} {outcomes : List Poll} {error : SourceError} :
    Spent retry outcomes error ↔
      (error.isTransient && retry.allows (setbacks outcomes)) = false := by
  cases mendable : error.isTransient <;> simp [Spent, RetryPolicy.allows, mendable]

/-- No error among the outcomes is the last one. -/
def WithinBudget (retry : RetryPolicy) (outcomes : List Poll) : Prop :=
  ∀ earlier error later, outcomes = earlier ++ .failed error :: later →
    ¬ Spent retry earlier error

theorem place_concat {α : Type} {old : List α} {new item : α} {earlier later : List α}
    (same : old ++ [new] = earlier ++ item :: later) :
    (later = [] ∧ earlier = old ∧ item = new) ∨ ∃ rest, old = earlier ++ item :: rest := by
  rcases later.eq_nil_or_concat with rfl | ⟨rest, last, rfl⟩
  · obtain ⟨front, back⟩ := List.append_inj' same rfl
    exact .inl ⟨rfl, front.symm, (List.singleton_inj.mp back).symm⟩
  · rw [List.concat_eq_append, ← List.cons_append, ← List.append_assoc] at same
    exact .inr ⟨rest, (List.append_inj' same rfl).1⟩

theorem WithinBudget.nil (retry : RetryPolicy) : WithinBudget retry [] := by
  intro earlier error later same
  cases earlier <;> cases same

theorem WithinBudget.concat {retry : RetryPolicy} {outcomes : List Poll} {poll : Poll}
    (within : WithinBudget retry outcomes)
    (spare : ∀ error, poll = .failed error → ¬ Spent retry outcomes error) :
    WithinBudget retry (outcomes ++ [poll]) := by
  intro earlier error later same
  rcases place_concat same with ⟨_, rfl, item⟩ | ⟨rest, old⟩
  · exact spare error item.symm
  · exact within earlier error rest old

/-- How many polls in a row were in vain, as far as the dispatcher counts them on its way from one
poll to the next. -/
def Dispatcher.misses? : Dispatcher → Option Nat
  | .polling attempt | .waiting _ attempt | .pausing _ attempt => some attempt
  | .reading _ | .handing _ _ => some 0
  | .stranded | .closing | .finished | .panicked => none

theorem Dispatcher.misses?_of_asking {dispatcher : Dispatcher} {attempt : Nat}
    (asking : dispatcher.asking? = some attempt) : dispatcher.misses? = some attempt := by
  cases dispatcher <;> first | exact asking | cases asking

namespace History

/-- How the polls of the source came out. -/
def outcomes (world : World σ) (history : History σ) : List Poll :=
  (answers world history).filter Poll.isOutcome

/-- The errors of the source that the supervisor was told of. -/
def sourceErrors (world : World σ) (history : History σ) : List String :=
  (posted world history).filterMap fun sent => sent.2.sourceError?

theorem outcomes_concat (world : World σ) (history : History σ) (config : Config σ)
    (action : Config.Action) :
    outcomes world (history ++ [(config, action)]) =
      outcomes world history ++ (config.answer? world action).toList.filter Poll.isOutcome := by
  simp only [outcomes, answers_concat, List.filter_append]

theorem sourceErrors_concat (world : World σ) (history : History σ) (config : Config σ)
    (action : Config.Action) :
    sourceErrors world (history ++ [(config, action)]) =
      sourceErrors world history ++
        (config.posted world action).filterMap Message.sourceError? := by
  simp only [sourceErrors, posted_concat, List.filterMap_append, List.filterMap_map]
  rfl

theorem records_eq (world : World σ) (history : History σ) :
    records world history = (outcomes world history).flatMap Poll.records :=
  (Poll.flatMap_records_outcomes _).symm

end History

/-- What else than an error of the source keeps the dispatcher from polling on. -/
inductive Disturbed (world : World σ) (history : History σ) (config : Config σ) : Prop where
  /-- It has noticed that intake is halted. -/
  | halted (before : Config σ)
      (member : (before, .dispatch) ∈ history)
      (heeds : before.dispatcher.heeds = true)
      (halt : before.halted = true)
  | failed (failed : config.hasFailed)
  /-- A poll has brought neither a batch nor an error. -/
  | answered (poll : Poll)
      (member : poll ∈ History.outcomes world history)
      (other : poll.isBatchOrError = false)

/-- How it stands with the budget of the source: the dispatcher goes on to the next poll, something
has disturbed it, or the last error has come. -/
inductive Budget (retry : RetryPolicy) (disturbed : Prop) (sent : List String) (read : Nat)
    (dispatcher : Dispatcher) : List Poll → List String → Prop where
  | open_ {outcomes : List Poll}
      (within : WithinBudget retry outcomes)
      (counts : dispatcher.misses? = some (setbacks outcomes)) :
      Budget retry disturbed sent read dispatcher outcomes []
  | cut {outcomes : List Poll}
      (within : WithinBudget retry outcomes)
      (past : dispatcher.misses? = none)
      (why : disturbed) :
      Budget retry disturbed sent read dispatcher outcomes []
  | spent {earlier : List Poll} {error : SourceError}
      (within : WithinBudget retry earlier)
      (last : Spent retry earlier error)
      (past : dispatcher.left? = none)
      (whole : sent = (earlier.flatMap Poll.records).flatMap RawRecord.words)
      (total : read = (earlier.flatMap Poll.records).length) :
      Budget retry disturbed sent read dispatcher (earlier ++ [.failed error]) [error.message]

variable {retry : RetryPolicy} {disturbed : Prop} {sent : List String} {read : Nat}
  {outcomes : List Poll} {told : List String} {dispatcher : Dispatcher}

theorem Budget.mono (budget : Budget retry disturbed sent read dispatcher outcomes told)
    {later : Prop} (grow : disturbed → later) :
    Budget retry later sent read dispatcher outcomes told := by
  cases budget with
  | open_ within counts => exact .open_ within counts
  | cut within past why => exact .cut within past (grow why)
  | spent within last past whole total => exact .spent within last past whole total

/-- When the source is asked, the dispatcher has counted the polls that were in vain. -/
theorem Budget.attempt_of_asking
    (budget : Budget retry disturbed sent read dispatcher outcomes told) {attempt : Nat}
    (asking : dispatcher.asking? = some attempt) : attempt = setbacks outcomes := by
  have counted := Dispatcher.misses?_of_asking asking
  cases budget with
  | open_ within counts =>
    rw [counted] at counts
    exact Option.some.inj counts
  | cut within past =>
    rw [counted] at past
    cases past
  | spent within last past =>
    rw [Dispatcher.left?_of_asking asking] at past
    cases past

theorem Budget.hand {words : List String} {rest : List RawRecord}
    (budget : Budget retry disturbed sent read (.handing words rest) outcomes told)
    (later : List String) (more : List String) :
    Budget retry disturbed more read (.handing later rest) outcomes told := by
  cases budget with
  | open_ within counts => exact .open_ within counts
  | cut within past | spent within last past => cases past

section Intake

variable {config : Config σ} {answer : Option Poll} {counters : Counters} {mail : List Message}

/-- A dispatcher that is not on its way to a poll stays so, asks for nothing and tells nothing. -/
theorem IntakeStep.of_past (step : IntakeStep config answer dispatcher counters mail)
    (past : config.dispatcher.misses? = none) :
    answer = none ∧ mail = [] ∧ dispatcher.misses? = none := by
  have awake : ∀ {attempt}, config.dispatcher.asking? ≠ some attempt := by
    intro attempt asking
    rw [Dispatcher.misses?_of_asking asking] at past
    cases past
  cases step with
  | halted | closed => exact ⟨rfl, rfl, rfl⟩
  | batch attempt records asking => exact absurd asking awake
  | retried attempt error asking | failed attempt error asking => exact absurd asking awake
  | awaited attempt millis asking => exact absurd asking awake
  | ended attempt asking | stranded attempt asking | died attempt asking =>
    exact absurd asking awake
  | resumed due attempt resting => rw [resting] at past; cases past
  | emptied reading => rw [reading] at past; cases past
  | read raw rest record reading => rw [reading] at past; cases past
  | skipped raw rest mismatch reading => rw [reading] at past; cases past
  | handed rest handing => rw [handing] at past; cases past
  | refused word words rest handing => rw [handing] at past; cases past

theorem IntakeInv.whole_of_asking {records : List RawRecord} {cut : Prop}
    (inv : IntakeInv records sent cut dispatcher counters) {attempt : Nat}
    (asking : dispatcher.asking? = some attempt) :
    sent = records.flatMap RawRecord.words ∧ counters.recordsRead = records.length := by
  have idle := Dispatcher.left?_of_asking asking
  have none_left := List.drop_eq_nil_iff.mp (inv.left [] [] idle).1
  refine ⟨?_, Nat.le_antisymm inv.read none_left⟩
  rw [inv.whole idle, List.take_of_length_le none_left]

theorem Budget.step {cut : Prop}
    (budget : Budget config.settings.sourceRetry disturbed sent config.counters.recordsRead
      config.dispatcher outcomes told)
    (intake : IntakeInv (outcomes.flatMap Poll.records) sent cut config.dispatcher config.counters)
    (step : IntakeStep config answer dispatcher counters mail)
    (halts : config.dispatcher.heeds = true → config.halted = true → disturbed)
    (refuses : ∀ word words rest, config.dispatcher = .handing (word :: words) rest →
      (∀ worker, config.workers[shardOf word config.workers.length]? = some worker →
        worker.isGone = true) → disturbed)
    (strange : ∀ poll ∈ answer.toList.filter Poll.isOutcome, poll.isBatchOrError = false →
      disturbed) :
    Budget config.settings.sourceRetry disturbed sent counters.recordsRead dispatcher
      (outcomes ++ answer.toList.filter Poll.isOutcome)
      (told ++ mail.filterMap Message.sourceError?) := by
  have asked : ∀ {attempt}, config.dispatcher.asking? = some attempt →
      attempt = setbacks outcomes := budget.attempt_of_asking
  cases budget with
  | spent within last past whole total =>
    obtain ⟨rfl, rfl, rfl, rfl⟩ := step.of_ended past
    rw [Option.toList_none, List.filter_nil, List.append_nil]
    exact .spent within last rfl whole total
  | cut within past why =>
    obtain ⟨rfl, rfl, still⟩ := step.of_past past
    rw [Option.toList_none, List.filter_nil, List.append_nil]
    exact .cut within still why
  | open_ within counts =>
    cases step with
    | halted halt heeds =>
      simpa using .cut within rfl (halts heeds halt)
    | batch attempt records asking =>
      refine .open_ (within.concat nofun) ?_
      change some 0 = some (setbacks (outcomes ++ [.batch records]))
      rw [setbacks_concat]
      rfl
    | ended attempt asking =>
      exact .cut (within.concat nofun) rfl (strange .endOfStream List.mem_cons_self rfl)
    | stranded attempt asking =>
      exact .cut (within.concat nofun) rfl (strange .interrupted List.mem_cons_self rfl)
    | died attempt asking =>
      exact .cut (within.concat nofun) rfl (strange .panicked List.mem_cons_self rfl)
    | retried attempt error asking open_ again =>
      obtain rfl := asked asking
      refine .open_ (within.concat ?_) ?_
      · rintro other same last
        cases same
        rw [spent_iff.mp last] at again
        cases again
      · have setback : (Poll.failed error).isSetback = true := (Bool.and_eq_true_iff.mp again).1
        change some _ = some (setbacks (outcomes ++ [.failed error]))
        rw [setbacks_concat, if_pos setback]
    | failed attempt error asking open_ final =>
      obtain rfl := asked asking
      obtain ⟨whole, total⟩ := intake.whole_of_asking asking
      exact .spent within (spent_iff.mpr final) rfl whole total
    | awaited attempt millis asking =>
      obtain rfl := asked asking
      change Budget _ _ _ _ _ (outcomes ++ []) []
      rw [List.append_nil]
      exact .open_ within rfl
    | resumed due attempt resting =>
      rw [resting] at counts
      simpa using .open_ within counts
    | emptied reading | read raw rest record reading | skipped raw rest mismatch reading =>
      rw [reading] at counts
      simpa using .open_ within counts
    | handed rest handing =>
      rw [handing] at counts
      simpa using .open_ within counts
    | refused word words rest handing gone =>
      simpa using .cut within rfl (refuses word words rest handing gone)
    | closed closing =>
      rw [closing] at counts
      cases counts

end Intake

namespace Config

variable {before after : Config σ} {action : Action}

theorem Change.sourceErrors_of_other (change : Change world before action after)
    (taken : before.act world action = some after) (other : action ≠ .dispatch) :
    (before.posted world action).filterMap Message.sourceError? = [] := by
  apply List.filterMap_eq_nil_iff.mpr
  intro message member
  cases change.tells taken message member with
  | sourceExhausted | sourceFailed text => exact absurd rfl other
  | sinkFailed mine text => rfl

theorem answer?_of_other (other : action ≠ .dispatch) : before.answer? world action = none := by
  cases action <;> first | rfl | exact absurd rfl other

end Config

theorem Disturbed.mono {history whole : History σ} {before after : Config σ}
    (disturbed : Disturbed world history before) (longer : history <+: whole)
    (grow : before.hasFailed → after.hasFailed) : Disturbed world whole after := by
  cases disturbed with
  | halted origin member heeds halt => exact .halted origin (longer.mem member) heeds halt
  | failed failed => exact .failed (grow failed)
  | answered poll member other =>
    exact .answered poll (((longer.filterMap _).filter _).mem member) other

section Run

variable {settings : PipelineSettings} {seed : Tally} {stopAt : Option Nat} {surroundings : σ}
  {history : History σ} {config : Config σ}

theorem Run.budget
    (run : Run world (Config.start settings seed stopAt surroundings) history config) :
    Budget settings.sourceRetry (Disturbed world history config) (History.dispatched history)
      config.counters.recordsRead config.dispatcher (History.outcomes world history)
      (History.sourceErrors world history) := by
  induction run with
  | start => exact .open_ (.nil _) rfl
  | @act history before after action earlier taken ih =>
    have change := (Config.change_of_act taken).2
    have longer : history <+: history ++ [(before, action)] := List.prefix_append _ _
    have fails : before.hasFailed → after.hasFailed := change.hasFailed
    have kept := ih.mono fun disturbed => disturbed.mono longer fails
    rw [History.outcomes_concat, History.sourceErrors_concat, History.dispatched_concat]
    -- Only the steps of the dispatcher show in any of this.
    have rest (other : action ≠ .dispatch)
        (same : after.dispatcher = before.dispatcher)
        (total : after.counters = before.counters)
        (unhanded : before.handed? action = none) :
        Budget settings.sourceRetry (Disturbed world (history ++ [(before, action)]) after)
          (History.dispatched history ++ (before.handed? action).toList.map Prod.snd)
          after.counters.recordsRead after.dispatcher
          (History.outcomes world history ++
            (before.answer? world action).toList.filter Poll.isOutcome)
          (History.sourceErrors world history ++
            (before.posted world action).filterMap Message.sourceError?) := by
      rw [Config.answer?_of_other other, change.sourceErrors_of_other taken other, unhanded, same,
        total]
      simpa using kept
    cases change with
    | request | heed | hear | died | returned => exact rest nofun rfl rfl rfl
    | work mine =>
      refine rest ?_ rfl rfl (handed?_of_worker? mine)
      rintro rfl
      cases mine
    | hand word words left worker handing found alive room =>
      rw [answer?_of_handing handing, Config.posted_eq taken (List.append_nil _).symm]
      rw [handing] at kept
      simpa using kept.hand words _
    | intake step asked unhanded next lines =>
      have intake := earlier.intakeInv
      rw [History.records_eq] at intake
      rw [asked, unhanded, Config.posted_eq taken rfl]
      have settings_eq : before.settings.sourceRetry = settings.sourceRetry := by
        rw [earlier.settings_eq]
        rfl
      rw [← settings_eq] at kept ⊢
      simp only [Option.toList_none, List.map_nil, List.append_nil]
      refine kept.step intake step ?_ ?_ ?_
      · intro heeds halt
        exact .halted before (List.mem_append_right _ List.mem_cons_self) heeds halt
      · intro word words rest handing gone
        exact .failed (fails (earlier.failed_of_gone (by rw [handing]; rfl) gone))
      · intro poll member strange
        refine .answered poll ?_ strange
        rw [History.outcomes_concat, asked]
        exact List.mem_append_right _ member
  | pass time earlier later ih =>
    exact ih.mono fun disturbed => disturbed.mono List.prefix_rfl id

theorem Budget.of_spent (budget : Budget retry disturbed sent read dispatcher outcomes told)
    {earlier later : List Poll} {error : SourceError}
    (same : outcomes = earlier ++ .failed error :: later) (final : Spent retry earlier error) :
    later = [] ∧ told = [error.message] ∧ dispatcher.left? = none ∧
      sent = (earlier.flatMap Poll.records).flatMap RawRecord.words ∧
      read = (earlier.flatMap Poll.records).length := by
  cases budget with
  | open_ within | cut within => exact absurd final (within earlier error later same)
  | spent within last past whole total =>
    rcases place_concat same with ⟨rfl, rfl, item⟩ | ⟨rest, old⟩
    · cases item
      exact ⟨rfl, rfl, past, whole, total⟩
    · exact absurd final (within earlier error rest old)

theorem Budget.of_within (budget : Budget retry disturbed sent read dispatcher outcomes told)
    (within : WithinBudget retry outcomes) :
    told = [] ∧ (¬ disturbed → dispatcher.misses? = some (setbacks outcomes)) := by
  cases budget with
  | open_ _ counts => exact ⟨rfl, fun _ => counts⟩
  | cut _ past why => exact ⟨rfl, fun calm => absurd why calm⟩
  | spent _ last => exact absurd last (within _ _ [] rfl)

namespace Config

/-- The dispatcher pauses until a time, unless intake ends before. -/
def RestsUntil (config : Config σ) (due attempt : Nat) : Prop :=
  config.now < due →
    config.dispatcher = .pausing due attempt ∨ config.dispatcher.left? = none

variable {config before after : Config σ} {action : Action} {due attempt : Nat}

theorem act_of_pausing (open_ : config.outcome = none)
    (resting : config.dispatcher = .pausing due attempt) :
    config.act world .dispatch =
      if config.halted then some { config with dispatcher := .closing }
      else if due ≤ config.now then some { config with dispatcher := .polling attempt }
      else none := by
  simp only [act, open_, Option.isSome_none, Bool.false_eq_true, if_false, dispatch?, resting]

theorem Change.dispatcher_of_other (change : Change world before action after)
    (other : action ≠ .dispatch) : after.dispatcher = before.dispatcher := by
  cases change with
  | request | heed | hear | died | returned | work => rfl
  | intake | hand => exact absurd rfl other

theorem restsUntil_of_act (taken : before.act world action = some after)
    (rests : before.RestsUntil due attempt) : after.RestsUntil due attempt := by
  intro early
  obtain ⟨open_, change⟩ := change_of_act taken
  rw [change.now_eq] at early
  by_cases mine : action = .dispatch
  · subst mine
    right
    rcases rests early with resting | past
    · rw [act_of_pausing open_ resting] at taken
      split at taken
      · cases taken
        rfl
      · rw [if_neg (Nat.not_le.mpr early)] at taken
        cases taken
    · cases change with
      | work mine => cases mine
      | intake step =>
        obtain ⟨_, rfl, _, _⟩ := step.of_ended past
        rfl
      | hand word words rest worker handing =>
        rw [handing] at past
        cases past
  · rw [change.dispatcher_of_other mine]
    exact rests early

end Config

theorem Run.restsUntil {first last : Config σ} {later : History σ} {due attempt : Nat}
    (run : Run world first later last) (rests : first.RestsUntil due attempt) :
    last.RestsUntil due attempt := by
  induction run with
  | start => exact rests
  | act action earlier taken ih => exact Config.restsUntil_of_act taken ih
  | pass time earlier ahead ih => exact fun early => ih (Nat.lt_of_le_of_lt ahead early)

/-- An error that is not the last one is followed by the pause of its retry. -/
theorem Run.pausing_of_failed
    (run : Run world (Config.start settings seed stopAt surroundings) history config)
    {after : Config σ} (taken : config.act world .dispatch = some after) {error : SourceError}
    (asked : config.answer? world .dispatch = some (.failed error))
    (spare : ¬ Spent settings.sourceRetry (History.outcomes world history) error) :
    let attempt := setbacks (History.outcomes world history)
    after.dispatcher = .pausing
      (config.now + (settings.sourceRetry.backoff attempt).millis) (attempt + 1) := by
  have settings_eq : config.settings.sourceRetry = settings.sourceRetry := by
    rw [run.settings_eq]
    rfl
  cases (Config.change_of_act taken).2 with
  | work mine => cases mine
  | hand word words rest worker handing =>
    rw [answer?_of_handing handing] at asked
    cases asked
  | @intake answer dispatcher counters mail step answered =>
    rw [asked] at answered
    subst answered
    cases step with
    | retried attempt error asking =>
      rw [← run.budget.attempt_of_asking asking, ← settings_eq]
      rfl
    | failed attempt error asking open_ final =>
      rw [run.budget.attempt_of_asking asking, settings_eq] at final
      exact absurd (spent_iff.mpr final) spare

/-- How often a source is polled. Intake ends with the first error that no retry can mend, or that
follows as many polls in vain, in a row, as there are retries; that error alone is told, and by then
all records of the batches before it are read and their words handed over. Without such an error
none is told, and intake goes on unless something else disturbs it. After every other error the
dispatcher pauses as long as its retry asks for, and then it can poll again. -/
theorem Run.source_retries
    (run : Run world (Config.start settings seed stopAt surroundings) history config) :
    let retry := settings.sourceRetry
    let outcomes := History.outcomes world history
    let told := History.sourceErrors world history
    (∀ earlier error later, outcomes = earlier ++ .failed error :: later →
        Spent retry earlier error →
        later = [] ∧ told = [error.message] ∧ config.dispatcher.left? = none ∧
        History.dispatched history = (earlier.flatMap Poll.records).flatMap RawRecord.words ∧
        config.counters.recordsRead = (earlier.flatMap Poll.records).length) ∧
      ((∀ earlier error later, outcomes = earlier ++ .failed error :: later →
          ¬ Spent retry earlier error) →
        told = [] ∧
        (¬ Disturbed world history config →
          config.dispatcher.misses? = some (setbacks outcomes))) ∧
      ∀ error after, config.act world .dispatch = some after →
        config.answer? world .dispatch = some (.failed error) → ¬ Spent retry outcomes error →
        let due := config.now + (retry.backoff (setbacks outcomes)).millis
        after.dispatcher = .pausing due (setbacks outcomes + 1) ∧
        ∀ later last, Run world after later last →
          last.RestsUntil due (setbacks outcomes + 1) ∧
          (last.dispatcher = .pausing due (setbacks outcomes + 1) → due ≤ last.now →
            ∃ next, last.act world .dispatch = some next ∧
              (last.halted = false → next.dispatcher = .polling (setbacks outcomes + 1))) := by
  intro retry outcomes told
  refine ⟨fun earlier error later same last => run.budget.of_spent same last,
    run.budget.of_within, ?_⟩
  intro error after taken asked spare due
  have pausing : after.dispatcher = .pausing due (setbacks outcomes + 1) :=
    run.pausing_of_failed taken asked spare
  refine ⟨pausing, fun later last further => ⟨further.restsUntil fun _ => .inl pausing, ?_⟩⟩
  intro resting elapsed
  have open_ : last.outcome = none := by
    apply Option.eq_none_iff_forall_ne_some.mpr
    intro outcome result
    have gone := (Bool.and_eq_true_iff.mp (((run.act _ taken).trans further).returned result).1).1
    rw [resting] at gone
    cases gone
  rw [Config.act_of_pausing open_ resting, if_pos elapsed]
  by_cases halt : last.halted = true
  · rw [if_pos halt]
    exact ⟨_, rfl, fun running => by rw [halt] at running; cases running⟩
  · rw [if_neg halt]
    exact ⟨_, rfl, fun _ => rfl⟩

end Run

def patient : PipelineSettings :=
  { PipelineSettings.standard with sourceRetry := ⟨1, .ofMillis 100⟩ }

/-- A source that is unavailable, gives a record, and is unavailable twice. -/
def patchyStart : Config Script :=
  Config.start patient fiveSeas none
    ⟨[.answer (.failed (.unavailable "busy")), .answer (.batch [.ofLine 0 0 "Red sea"]),
      .answer (.failed (.unavailable "late")), .answer (.failed (.unavailable "gone"))],
      none, [], 0, 0⟩

def patchySteps : List (Nat × Config.Action) :=
  [0, 100, 100, 100, 100, 100, 100, 100, 100, 200, 200].map fun time => (time, .dispatch)

/-- The batch gives the retry back, so the first and the third poll are followed by another, the
fourth is not. -/
theorem patchy_source_retries :
    ∃ history last, Run Script.world patchyStart history last ∧
      History.sourceErrors Script.world history = ["source temporarily unavailable: gone"] ∧
      last.dispatcher.left? = none ∧
      History.dispatched history = RawRecord.words (.ofLine 0 0 "Red sea") ∧
      last.counters.recordsRead = 1 := by
  obtain ⟨⟨history, last⟩, replayed⟩ := Option.isSome_iff_exists.mp
    (by decide +kernel : (patchyStart.replay Script.world patchySteps).isSome = true)
  have outcomes : (patchyStart.replay Script.world patchySteps).map
      (fun result => History.outcomes Script.world result.1) =
        some ([.failed (.unavailable "busy"), .batch [.ofLine 0 0 "Red sea"],
          .failed (.unavailable "late")] ++ .failed (.unavailable "gone") :: []) := by rfl
  rw [replayed, Option.map_some] at outcomes
  have run : Run Script.world patchyStart history last := .of_replay replayed
  have final : Spent patient.sourceRetry [.failed (.unavailable "busy"),
      .batch [.ofLine 0 0 "Red sea"], .failed (.unavailable "late")] (.unavailable "gone") :=
    .inr (by decide)
  obtain ⟨_, told, past, whole, total⟩ :=
    run.source_retries.1 _ _ _ (Option.some.inj outcomes) final
  exact ⟨history, last, run, told, past, whole.trans (List.append_nil _), total⟩

end Pipeline

end WordTally
