import WordTally.Proofs.Pipeline.SourceCalls
import WordTally.Proofs.Pipeline.Supervision
import WordTally.Proofs.Pipeline.Unlogged

set_option autoImplicit false

namespace WordTally.Pipeline

variable {σ : Type} {world : World σ} {before after : Config σ} {action : Config.Action}

/-- The source has been closed, once and after everything else, or not yet. -/
structure CloseInv (calls : List SourceCall) (dispatcher : Dispatcher) : Prop where
  before : dispatcher ≠ .finished → .close ∉ calls
  after : dispatcher = .finished → ∃ earlier, calls = earlier ++ [.close] ∧ .close ∉ earlier

section Intake

variable {config : Config σ} {answer : Option Poll} {dispatcher : Dispatcher}
  {counters : Counters} {mail : List Message}

theorem IntakeStep.finished_iff
    (step : IntakeStep config answer dispatcher counters mail) :
    dispatcher = .finished ↔ config.dispatcher = .closing := by
  have open_ : ∀ {attempt}, config.dispatcher.asking? = some attempt →
      config.dispatcher ≠ .closing := by
    intro attempt asking closing
    rw [closing] at asking
    cases asking
  cases step with
  | closed closing => simp [closing]
  | halted halt heeds =>
    have other : config.dispatcher ≠ .closing := by
      intro closing
      rw [closing] at heeds
      cases heeds
    simp [other]
  | batch attempt records asking => simp [open_ asking]
  | retried attempt error asking | failed attempt error asking => simp [open_ asking]
  | awaited attempt millis asking => simp [open_ asking]
  | ended attempt asking | stranded attempt asking | died attempt asking => simp [open_ asking]
  | resumed due attempt resting => simp [resting]
  | emptied reading => simp [reading]
  | read raw rest record reading => simp [reading]
  | skipped raw rest mismatch reading => simp [reading]
  | handed rest handing => simp [handing]
  | refused word words rest handing => simp [handing]

theorem IntakeStep.recordsRead_of_halted
    (step : IntakeStep config answer dispatcher counters mail) (halted : config.halted = true) :
    counters.recordsRead = config.counters.recordsRead := by
  cases step with
  | read raw rest record reading open_ | skipped raw rest mismatch reading open_ =>
    rw [halted] at open_
    cases open_
  | halted | batch | ended | retried | failed | awaited | stranded | died => rfl
  | resumed | emptied | handed | refused | closed => rfl

/-- At a word that its shard does not take any more, intake ends. -/
theorem IntakeStep.of_handing (step : IntakeStep config answer dispatcher counters mail)
    {word : String} {words : List String} {rest : List RawRecord}
    (handing : config.dispatcher = .handing (word :: words) rest) :
    dispatcher = .closing ∧ counters = config.counters := by
  have busy : ∀ {attempt}, config.dispatcher.asking? ≠ some attempt := by
    intro attempt asking
    rw [handing] at asking
    cases asking
  cases step with
  | refused => exact ⟨rfl, rfl⟩
  | halted halt heeds =>
    rw [handing] at heeds
    cases heeds
  | batch attempt records asking => exact absurd asking busy
  | retried attempt error asking | failed attempt error asking => exact absurd asking busy
  | awaited attempt millis asking => exact absurd asking busy
  | ended attempt asking | stranded attempt asking | died attempt asking =>
    exact absurd asking busy
  | resumed due attempt resting => rw [handing] at resting; cases resting
  | emptied reading => rw [handing] at reading; cases reading
  | read raw rest record reading => rw [handing] at reading; cases reading
  | skipped raw rest mismatch reading => rw [handing] at reading; cases reading
  | handed rest other => rw [handing] at other; cases other
  | closed closing => rw [handing] at closing; cases closing

end Intake

namespace Config

/-- Intake is over, or it is at a word whose shard has failed. -/
def IsCut (config : Config σ) : Prop :=
  config.dispatcher.left? = none ∨
    ∃ word words rest, config.dispatcher = .handing (word :: words) rest ∧
      config.hasFailedFor word

namespace Change

theorem finished_iff (change : Change world before action after) :
    after.dispatcher = .finished ↔
      before.dispatcher = .finished ∨ before.sourceCall? action = some .close := by
  rw [sourceCall?_eq_close]
  cases change with
  | request | heed | hear | died | returned => simp [delivered]
  | work mine =>
    have other : action ≠ .dispatch := by
      rintro rfl
      cases mine
    simp [worked, other]
  | hand word words rest worker handing => simp [handing]
  | intake step =>
    have open_ : before.dispatcher ≠ .finished := by
      intro finished
      have alive := step.not_gone
      rw [finished] at alive
      cases alive
    simp [moved, step.finished_iff, open_]

theorem unasked_of_finished (finished : before.dispatcher = .finished) :
    before.sourceCall? action = none := by
  cases action <;> simp [sourceCall?, finished]

theorem closeInv (change : Change world before action after) {calls : List SourceCall}
    (inv : CloseInv calls before.dispatcher) :
    CloseInv (calls ++ (before.sourceCall? action).toList) after.dispatcher := by
  constructor
  · intro open_ member
    have still : before.dispatcher ≠ .finished := fun finished =>
      open_ (change.finished_iff.mpr (.inl finished))
    rcases List.mem_append.mp member with old | new
    · exact inv.before still old
    · exact open_ (change.finished_iff.mpr (.inr (Option.mem_toList.mp new)))
  · intro finished
    by_cases already : before.dispatcher = .finished
    · rw [unasked_of_finished already, Option.toList_none, List.append_nil]
      exact inv.after already
    · have closing := (change.finished_iff.mp finished).resolve_left already
      rw [closing]
      exact ⟨calls, rfl, inv.before already⟩

/-- A step of a run whose intake is halted. -/
theorem of_halted (change : Change world before action after) (halted : before.halted = true) :
    after.halted = true ∧ after.counters.recordsRead = before.counters.recordsRead := by
  cases change with
  | request | died | work => exact ⟨halted, rfl⟩
  | heed | hear | returned =>
    refine ⟨?_, rfl⟩
    change (before.halted || _) = true
    rw [halted, Bool.true_or]
  | intake step => exact ⟨halted, step.recordsRead_of_halted halted⟩
  | hand => exact ⟨halted, rfl⟩

theorem of_isCut (change : Change world before action after) (cut : before.IsCut) :
    after.IsCut ∧ before.handed? action = none ∧
      after.counters.recordsRead = before.counters.recordsRead := by
  -- Whoever leaves the dispatcher alone leaves intake cut.
  have kept (same : after.dispatcher = before.dispatcher) : after.IsCut := by
    rcases cut with past | ⟨word, words, rest, handing, failed⟩
    · exact .inl (by rw [same, past])
    · exact .inr ⟨word, words, rest, by rw [same, handing], change.hasFailedFor failed⟩
  cases change with
  | request | heed | hear | died | returned => exact ⟨kept rfl, rfl, rfl⟩
  | work mine => exact ⟨kept rfl, handed?_of_worker? mine, rfl⟩
  | hand word words rest worker handing found alive =>
    rcases cut with past | ⟨other, others, left, same, target, there, failed⟩
    · rw [handing] at past
      cases past
    · rw [handing] at same
      cases same
      rw [found] at there
      cases there
      rw [Worker.isGone, failed] at alive
      cases alive
  | intake step asked unhanded =>
    rcases cut with past | ⟨word, words, rest, handing, failed⟩
    · obtain ⟨_, rfl, rfl, _⟩ := step.of_ended past
      exact ⟨.inl rfl, unhanded, rfl⟩
    · obtain ⟨rfl, rfl⟩ := step.of_handing handing
      exact ⟨.inl rfl, unhanded, rfl⟩

end Change

theorem sourceCall?_of_isCut (cut : before.IsCut) :
    ∀ call, before.sourceCall? action = some call → call = .close := by
  intro call asked
  cases action <;> try cases asked
  unfold sourceCall? at asked
  rcases cut with past | ⟨word, words, rest, handing, failed⟩
  · cases state : before.dispatcher <;> simp only [state] at past asked <;> cases past
    · exact (Option.some.inj asked).symm
    · cases asked
  · rw [handing] at asked
    cases asked

end Config

theorem Run.closeInv {first config : Config σ} {history : History σ}
    (run : Run world first history config) (fresh : first.dispatcher ≠ .finished) :
    CloseInv (History.calls history) config.dispatcher := by
  induction run with
  | start => exact ⟨fun _ => List.not_mem_nil, fun finished => absurd finished fresh⟩
  | act action earlier taken ih =>
    rw [History.calls_concat]
    exact (Config.change_of_act taken).2.closeInv ih
  | pass time earlier later ih => exact ih

section Later

variable {config last : Config σ} {later : History σ}

/-- Once intake is halted, the source is not asked for more, and no further record is read. -/
theorem Run.of_halted (run : Run world config later last) (halted : config.halted = true) :
    last.halted = true ∧ (∀ call ∈ History.calls later, call = .close) ∧
      last.counters.recordsRead = config.counters.recordsRead := by
  induction run with
  | start => exact ⟨halted, nofun, rfl⟩
  | act action earlier taken ih =>
    obtain ⟨still, closes, read⟩ := ih
    have step := (Config.change_of_act taken).2.of_halted still
    refine ⟨step.1, ?_, step.2.trans read⟩
    intro call member
    rw [History.calls_concat] at member
    rcases List.mem_append.mp member with old | new
    · exact closes call old
    · exact Config.sourceCall?_of_halted still call (Option.mem_toList.mp new)
  | pass time earlier ahead ih => exact ih

/-- Once intake is cut, nothing more is handed over, either. -/
theorem Run.of_isCut (run : Run world config later last) (cut : config.IsCut) :
    last.IsCut ∧ (∀ call ∈ History.calls later, call = .close) ∧
      History.handed later = [] ∧ last.counters.recordsRead = config.counters.recordsRead := by
  induction run with
  | start => exact ⟨cut, nofun, rfl, rfl⟩
  | act action earlier taken ih =>
    obtain ⟨still, closes, handed, read⟩ := ih
    obtain ⟨next, unhanded, same⟩ := (Config.change_of_act taken).2.of_isCut still
    refine ⟨next, ?_, ?_, same.trans read⟩
    · intro call member
      rw [History.calls_concat] at member
      rcases List.mem_append.mp member with old | new
      · exact closes call old
      · exact Config.sourceCall?_of_isCut still call (Option.mem_toList.mp new)
    · rw [History.handed_concat, handed, unhanded]
      rfl
  | pass time earlier ahead ih => exact ih

end Later

/-- Of the records read all words are handed over in order, but for the words `left` at the end of
the last record. -/
def Within (read : List RawRecord) (sent left : List String) : Prop :=
  ∃ earlier raw done, read = earlier ++ [raw] ∧ raw.words = done ++ left ∧
    sent = earlier.flatMap RawRecord.words ++ done

theorem Within.hand {read : List RawRecord} {sent left : List String} {word : String}
    (within : Within read sent (word :: left)) : Within read (sent ++ [word]) left := by
  obtain ⟨earlier, raw, done, whole, words, given⟩ := within
  refine ⟨earlier, raw, done ++ [word], whole, ?_, ?_⟩
  · rw [words, List.append_assoc, List.singleton_append]
  · rw [given, List.append_assoc]

/-- The invariant of a record that is handed over. Only a word whose shard `hasFailed` ends intake
in the middle of it. -/
structure HandingInv (read : List RawRecord) (sent : List String) (hasFailed : String → Prop)
    (dispatcher : Dispatcher) : Prop where
  amid : ∀ words rest, dispatcher = .handing words rest → Within read sent words
  ended : dispatcher.left? = none →
    sent = read.flatMap RawRecord.words ∨
    ∃ word words, Within read sent (word :: words) ∧ hasFailed word

namespace HandingInv

variable {read : List RawRecord} {sent : List String} {hasFailed : String → Prop}
  {dispatcher : Dispatcher}

theorem mono (inv : HandingInv read sent hasFailed dispatcher) {later : String → Prop}
    (grow : ∀ word, hasFailed word → later word) : HandingInv read sent later dispatcher := by
  refine ⟨inv.amid, fun past => (inv.ended past).imp_right ?_⟩
  rintro ⟨word, words, within, failed⟩
  exact ⟨word, words, within, grow word failed⟩

theorem between {rest : List RawRecord} (idle : dispatcher.left? = some ([], rest))
    (other : ∀ words records, dispatcher ≠ .handing words records) :
    HandingInv read sent hasFailed dispatcher := by
  refine ⟨fun words records handing => absurd handing (other words records), fun past => ?_⟩
  rw [idle] at past
  cases past

theorem close (whole : sent = read.flatMap RawRecord.words) :
    HandingInv read sent hasFailed .closing :=
  ⟨nofun, fun _ => .inl whole⟩

theorem next {word : String} {words : List String} (within : Within read sent (word :: words))
    (rest : List RawRecord) :
    HandingInv read (sent ++ [word]) hasFailed (.handing words rest) := by
  refine ⟨?_, nofun⟩
  intro others left same
  cases same
  exact within.hand

theorem cut {word : String} {words : List String} (within : Within read sent (word :: words))
    (failed : hasFailed word) : HandingInv read sent hasFailed .closing :=
  ⟨nofun, fun _ => .inr ⟨word, words, within, failed⟩⟩

theorem finish
    (ended : sent = read.flatMap RawRecord.words ∨
      ∃ word words, Within read sent (word :: words) ∧ hasFailed word) :
    HandingInv read sent hasFailed .finished :=
  ⟨nofun, fun _ => ended⟩

theorem begin (whole : sent = read.flatMap RawRecord.words) (raw : RawRecord)
    (rest : List RawRecord) :
    HandingInv (read ++ [raw]) sent hasFailed (.handing raw.words rest) := by
  refine ⟨?_, nofun⟩
  intro words records handing
  cases handing
  exact ⟨read, raw, [], rfl, rfl, by rw [whole, List.append_nil]⟩

end HandingInv

theorem IntakeInv.whole {records : List RawRecord} {sent : List String} {cut : Prop}
    {dispatcher : Dispatcher} {counters : Counters}
    (inv : IntakeInv records sent cut dispatcher counters) {rest : List RawRecord}
    (idle : dispatcher.left? = some ([], rest)) :
    sent = (records.take counters.recordsRead).flatMap RawRecord.words := by
  rw [← (inv.left [] rest idle).2, List.append_nil]

theorem IntakeInv.take_succ {records : List RawRecord} {sent : List String} {cut : Prop}
    {dispatcher : Dispatcher} {counters : Counters}
    (inv : IntakeInv records sent cut dispatcher counters) {raw : RawRecord}
    {rest : List RawRecord} (reading : dispatcher.left? = some ([], raw :: rest)) :
    records.take (counters.recordsRead + 1) = records.take counters.recordsRead ++ [raw] := by
  have here : records[counters.recordsRead]? = some raw := by
    rw [← List.head?_drop, (inv.left [] (raw :: rest) reading).1]
    rfl
  rw [List.take_add_one, here]
  rfl

/-- What a step reads was there before; a batch that it brings is read later. -/
theorem IntakeStep.take_append {config : Config σ} {answer : Option Poll}
    {dispatcher : Dispatcher} {counters : Counters} {mail : List Message}
    (step : IntakeStep config answer dispatcher counters mail) {records : List RawRecord}
    (read : config.counters.recordsRead ≤ records.length) :
    (records ++ answer.toList.flatMap Poll.records).take counters.recordsRead =
      records.take counters.recordsRead := by
  have apart : answer.toList.flatMap Poll.records = [] ∨ counters = config.counters := by
    cases step with
    | read | skipped => exact .inl rfl
    | halted | batch | ended | retried | failed | awaited | stranded | died => exact .inr rfl
    | resumed | emptied | handed | refused | closed => exact .inr rfl
  rcases apart with nothing | same
  · rw [nothing, List.append_nil]
  · rw [same]
    exact List.take_append_of_le_length read

theorem HandingInv.step {config : Config σ} {records : List RawRecord} {sent : List String}
    {cut : Prop} {answer : Option Poll} {dispatcher : Dispatcher} {counters : Counters}
    {mail : List Message}
    (inv : HandingInv (records.take config.counters.recordsRead) sent config.hasFailedFor
      config.dispatcher)
    (intake : IntakeInv records sent cut config.dispatcher config.counters)
    (step : IntakeStep config answer dispatcher counters mail)
    (why : ∀ word words rest, config.dispatcher = .handing (word :: words) rest →
      (∀ worker, config.workers[shardOf word config.workers.length]? = some worker →
        worker.isGone = true) → config.hasFailedFor word) :
    HandingInv (records.take counters.recordsRead) sent config.hasFailedFor dispatcher := by
  cases step with
  | halted halt heeds =>
    obtain ⟨rest, idle⟩ := Dispatcher.left?_of_heeds heeds
    exact .close (intake.whole idle)
  | ended attempt asking => exact .close (intake.whole (Dispatcher.left?_of_asking asking))
  | failed attempt error asking =>
    exact .close (intake.whole (Dispatcher.left?_of_asking asking))
  | batch | retried | awaited | stranded | died | resumed | emptied | skipped | handed =>
    refine .between rfl ?_
    intro words rest handing
    cases handing
  | read raw rest record reading open_ decoded =>
    have words : raw.words = Text.words record.text := by simp only [RawRecord.words, decoded]
    have idle : config.dispatcher.left? = some ([], raw :: rest) := by
      rw [reading]
      rfl
    rw [← words, intake.take_succ idle]
    exact .begin (intake.whole idle) raw rest
  | refused word words rest handing gone =>
    exact .cut (inv.amid _ _ handing) (why word words rest handing gone)
  | closed closing => exact .finish (inv.ended (by rw [closing]; rfl))

section Run

variable {settings : PipelineSettings} {seed : Tally} {stopAt : Option Nat} {surroundings : σ}
  {history : History σ} {config : Config σ}

theorem Run.handingInv
    (run : Run world (Config.start settings seed stopAt surroundings) history config) :
    HandingInv ((History.records world history).take config.counters.recordsRead)
      (History.dispatched history) config.hasFailedFor config.dispatcher := by
  induction run with
  | start =>
    refine .between rfl ?_
    intro words rest handing
    cases handing
  | @act history before after action earlier taken ih =>
    have change := (Config.change_of_act taken).2
    have intake := earlier.intakeInv
    rw [History.records_concat, History.dispatched_concat]
    cases change with
    | request | heed | hear | died | returned =>
      simp only [Config.answer?, Config.handed?, Option.toList_none, List.flatMap_nil,
        List.map_nil, List.append_nil]
      exact ih
    | work mine found step unsent counted next =>
      have change : Config.Change world before action (before.worked _ _ _ next) :=
        .work mine found step unsent counted next
      have kept := ih.mono fun word => change.hasFailedFor
      rw [answer?_of_worker? mine, handed?_of_worker? mine]
      simp only [Option.toList_none, List.flatMap_nil, List.map_nil, List.append_nil]
      exact kept
    | intake step asked unhanded next lines =>
      rw [asked, unhanded]
      simp only [Option.toList_none, List.map_nil, List.append_nil]
      have kept := ih.step intake step fun word words rest handing gone =>
        earlier.hasFailedFor_of_gone (by rw [handing]; rfl) gone
      rw [← step.take_append intake.read] at kept
      exact kept
    | hand word words rest worker handing found alive room =>
      rw [answer?_of_handing handing, handed?_of_handing handing found alive]
      simpa using HandingInv.next (ih.amid _ _ handing) rest
  | pass time earlier later ih => exact ih

/-- The end of intake. Halted intake asks the source for nothing more and reads no further record.
A record that was begun is handed over to its end, but for a word whose shard has failed and what
follows it; then intake is over, and nothing more is handed over or read. When a run returns whose
dispatcher did not die, the source has been closed once, after all else that was asked of it, and
whatever closing returns, the same steps lead to the same configuration up to its log. -/
theorem Run.stops_safely
    (run : Run world (Config.start settings seed stopAt surroundings) history config) :
    let read := (History.records world history).take config.counters.recordsRead
    let sent := History.dispatched history
    (config.halted = true → ∀ later last, Run world config later last →
        (∀ call ∈ History.calls later, call = .close) ∧
        last.counters.recordsRead = config.counters.recordsRead) ∧
      (∀ words rest, config.dispatcher = .handing words rest → Within read sent words) ∧
      (config.dispatcher.left? = none →
        sent = read.flatMap RawRecord.words ∨
        ∃ word words, Within read sent (word :: words) ∧ config.hasFailedFor word) ∧
      (config.IsCut → ∀ later last, Run world config later last →
        (∀ call ∈ History.calls later, call = .close) ∧ History.handed later = [] ∧
        last.counters.recordsRead = config.counters.recordsRead) ∧
      (∀ outcome, config.outcome = some outcome → outcome ≠ .panicked →
        config.dispatcher = .finished ∧ config.dispatcher.left? = none ∧
        ∃ earlier, History.calls history = earlier ++ [.close] ∧ .close ∉ earlier) ∧
      ∀ error, ∃ twin log,
        Run (world.closing error) (Config.start settings seed stopAt surroundings) twin
          (config.withLog log) ∧
        twin.map Prod.snd = history.map Prod.snd := by
  intro read sent
  refine ⟨?_, run.handingInv.amid, run.handingInv.ended, ?_, ?_, run.closing⟩
  · intro halted later last further
    exact (further.of_halted halted).2
  · intro cut later last further
    exact (further.of_isCut cut).2
  · intro outcome result alive
    have gone := (Bool.and_eq_true_iff.mp (run.returned result).1).1
    have finished : config.dispatcher = .finished := by
      rcases (run.returned result).2.2 with ⟨_, panicked⟩ | ⟨living, _⟩
      · exact absurd panicked alive
      · exact Dispatcher.eq_finished gone living
    refine ⟨finished, by rw [finished]; rfl, ?_⟩
    exact (run.closeInv nofun).after finished

/-- The first sink fails while the source waits, and closing the source might fail as well. -/
theorem seaRun_stops_safely :
    ∃ history, Run Script.world
        (Config.start narrow fiveSeas none (seaScript [⟨1, some (.rejected "full")⟩])) history
        (seaRun [⟨1, some (.rejected "full")⟩]) ∧
      (∃ earlier, History.calls history = earlier ++ [.close] ∧ .close ∉ earlier) ∧
      ∃ twin log, Run (Script.world.closing (some (.fatal "gone")))
        (Config.start narrow fiveSeas none (seaScript [⟨1, some (.rejected "full")⟩])) twin
        ((seaRun [⟨1, some (.rejected "full")⟩]).withLog log) := by
  obtain ⟨history, sea⟩ := exists_history_of_run Script.world 1000 narrow fiveSeas none
    (seaScript [⟨1, some (.rejected "full")⟩])
  have result : (seaRun [⟨1, some (.rejected "full")⟩]).outcome = some (.failed
      (.sinkFailed "shard 0: sink rejected updates: full")
      ⟨3, 1, 5, 3, .sourceExhausted, Tally.ofList [("red", 2), ("sea", 7), ("sun", 1)]⟩) := by
    decide +kernel
  obtain ⟨_, _, _, _, returned, twins⟩ := sea.stops_safely
  obtain ⟨_, _, closed⟩ := returned _ result nofun
  obtain ⟨twin, log, other, _⟩ := twins (some (.fatal "gone"))
  exact ⟨history, sea, closed, twin, log, other⟩

end Run

end WordTally.Pipeline
