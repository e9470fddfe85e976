import WordTally.Proofs.Pipeline.Shards

set_option autoImplicit false

namespace WordTally

namespace RawRecord

/-- The words to be counted in a record; a record without text has none. -/
def words (raw : RawRecord) : List String :=
  match raw.decode with
  | .ok record => Text.words record.text
  | .error _ => []

def isRejected (raw : RawRecord) : Bool :=
  match raw.decode with
  | .ok _ => false
  | .error _ => true

end RawRecord

namespace Pipeline

variable {σ : Type} {world : World σ}

/-- What is left to hand over of a record and to read of a batch, as long as intake goes on. -/
def Dispatcher.left? : Dispatcher → Option (List String × List RawRecord)
  | .polling _ | .waiting _ _ | .stranded | .pausing _ _ | .panicked => some ([], [])
  | .reading records => some ([], records)
  | .handing words records => some (words, records)
  | .closing | .finished => none

/-- The invariant of the dispatcher, whose intake a failed shard may have `cut`. -/
structure IntakeInv (records : List RawRecord) (sent : List String) (cut : Prop)
    (dispatcher : Dispatcher) (counters : Counters) : Prop where
  read : counters.recordsRead ≤ records.length
  skipped : counters.recordsSkipped =
    (records.take counters.recordsRead).countP RawRecord.isRejected
  tokens : counters.tokensCounted = sent.length
  left : ∀ words rest, dispatcher.left? = some (words, rest) →
    records.drop counters.recordsRead = rest ∧
    sent ++ words = (records.take counters.recordsRead).flatMap RawRecord.words
  ended : dispatcher.left? = none →
    sent = (records.take counters.recordsRead).flatMap RawRecord.words ∨
    cut ∧ sent <+: (records.take counters.recordsRead).flatMap RawRecord.words

variable {records : List RawRecord} {sent : List String} {cut : Prop} {dispatcher : Dispatcher}
  {counters : Counters}

namespace IntakeInv

theorem close (inv : IntakeInv records sent cut dispatcher counters) {rest : List RawRecord}
    (between : dispatcher.left? = some ([], rest)) :
    IntakeInv records sent cut .closing counters := by
  have whole := (inv.left [] rest between).2
  rw [List.append_nil] at whole
  exact ⟨inv.read, inv.skipped, inv.tokens, nofun, fun _ => .inl whole⟩

theorem turn (inv : IntakeInv records sent cut dispatcher counters) {next : Dispatcher}
    {words : List String} {rest : List RawRecord}
    (before : dispatcher.left? = some (words, rest)) (after : next.left? = some (words, rest)) :
    IntakeInv records sent cut next counters := by
  refine ⟨inv.read, inv.skipped, inv.tokens, ?_, ?_⟩
  · intro _ _ left
    rw [after] at left
    cases left
    exact inv.left words rest before
  · intro none
    rw [after] at none
    cases none

theorem batch (inv : IntakeInv records sent cut dispatcher counters) (fresh : List RawRecord)
    (done : dispatcher.left? = some ([], [])) :
    IntakeInv (records ++ fresh) sent cut (.reading fresh) counters := by
  have prior : (records ++ fresh).take counters.recordsRead =
      records.take counters.recordsRead := List.take_append_of_le_length inv.read
  obtain ⟨empty, whole⟩ := inv.left [] [] done
  refine ⟨?_, ?_, inv.tokens, ?_, nofun⟩
  · have read := inv.read
    rw [List.length_append]
    omega
  · rw [prior]
    exact inv.skipped
  · intro words rest left
    cases left
    rw [prior, List.drop_append_of_le_length inv.read, empty]
    exact ⟨rfl, whole⟩

theorem advance (inv : IntakeInv records sent cut dispatcher counters) {raw : RawRecord}
    {rest : List RawRecord} {next : Dispatcher} {skipped : Nat}
    (at_ : dispatcher.left? = some ([], raw :: rest))
    (after : next.left? = some (raw.words, rest))
    (counted : skipped = counters.recordsSkipped + if raw.isRejected then 1 else 0) :
    IntakeInv records sent cut next
      { counters with recordsRead := counters.recordsRead + 1, recordsSkipped := skipped } := by
  obtain ⟨left, whole⟩ := inv.left [] (raw :: rest) at_
  have here : records[counters.recordsRead]? = some raw := by
    rw [← List.head?_drop, left]
    rfl
  have taken : records.take (counters.recordsRead + 1) =
      records.take counters.recordsRead ++ [raw] := by
    rw [List.take_add_one, here]
    rfl
  have bound := (List.getElem?_eq_some_iff.mp here).1
  refine ⟨bound, ?_, inv.tokens, ?_, ?_⟩
  · dsimp only
    rw [taken, List.countP_append, ← inv.skipped, counted]
    cases rejected : raw.isRejected <;> simp [rejected]
  · intro words remaining present
    rw [after] at present
    cases present
    dsimp only
    rw [taken, List.flatMap_append, ← whole, ← List.tail_drop, left]
    simp
  · intro none
    rw [after] at none
    cases none

theorem hand (inv : IntakeInv records sent cut dispatcher counters) {word : String}
    {words : List String} {rest : List RawRecord}
    (handing : dispatcher = .handing (word :: words) rest) :
    IntakeInv records (sent ++ [word]) cut (.handing words rest)
      { counters with tokensCounted := counters.tokensCounted + 1 } := by
  subst handing
  obtain ⟨left, whole⟩ := inv.left (word :: words) rest rfl
  refine ⟨inv.read, inv.skipped, ?_, ?_, nofun⟩
  · simp only [List.length_append, List.length_singleton, inv.tokens]
  · intro _ _ present
    cases present
    rw [List.append_assoc]
    exact ⟨left, whole⟩

/-- A failed shard stops intake in the middle of a record. -/
theorem refuse (inv : IntakeInv records sent cut dispatcher counters) {words : List String}
    {rest : List RawRecord} (handing : dispatcher.left? = some (words, rest)) (why : cut) :
    IntakeInv records sent cut .closing counters :=
  ⟨inv.read, inv.skipped, inv.tokens, nofun,
    fun _ => .inr ⟨why, words, (inv.left words rest handing).2⟩⟩

end IntakeInv

theorem Dispatcher.left?_of_asking {attempt : Nat} (asking : dispatcher.asking? = some attempt) :
    dispatcher.left? = some ([], []) := by
  cases dispatcher <;> first | rfl | cases asking

theorem Dispatcher.left?_of_heeds (heeds : dispatcher.heeds = true) :
    ∃ rest, dispatcher.left? = some ([], rest) := by
  cases dispatcher <;> first | exact ⟨_, rfl⟩ | cases heeds

theorem Dispatcher.eq_finished (gone : dispatcher.isGone = true)
    (alive : dispatcher ≠ .panicked) : dispatcher = .finished := by
  cases dispatcher with
  | finished => rfl
  | panicked => exact absurd rfl alive
  | polling | waiting | stranded | pausing | reading | handing | closing => cases gone

theorem Dispatcher.left?_of_gone (gone : dispatcher.isGone = true)
    (alive : dispatcher ≠ .panicked) : dispatcher.left? = none := by
  rw [eq_finished gone alive]
  rfl

theorem IntakeInv.step {config : Config σ} {answer : Option Poll} {mail : List Message}
    (inv : IntakeInv records sent cut config.dispatcher config.counters)
    (step : IntakeStep config answer dispatcher counters mail)
    (why : ∀ word words rest, config.dispatcher = .handing (word :: words) rest →
      (∀ worker, config.workers[shardOf word config.workers.length]? = some worker →
        worker.isGone = true) → cut) :
    IntakeInv (records ++ answer.toList.flatMap Poll.records) sent cut dispatcher counters := by
  cases step with
  | batch attempt fresh asking open_ =>
    simpa [Poll.records] using inv.batch fresh (Dispatcher.left?_of_asking asking)
  | halted halt heeds =>
    obtain ⟨rest, between⟩ := Dispatcher.left?_of_heeds heeds
    simpa using inv.close between
  | ended attempt asking =>
    simpa [Poll.records] using inv.close (Dispatcher.left?_of_asking asking)
  | failed attempt error asking =>
    simpa [Poll.records] using inv.close (Dispatcher.left?_of_asking asking)
  | retried attempt error asking =>
    simpa [Poll.records] using inv.turn (Dispatcher.left?_of_asking asking) rfl
  | awaited attempt millis asking =>
    simpa [Poll.records] using inv.turn (Dispatcher.left?_of_asking asking) rfl
  | stranded attempt asking | died attempt asking =>
    simpa [Poll.records] using inv.turn (Dispatcher.left?_of_asking asking) rfl
  | resumed due attempt resting =>
    simpa using inv.turn (by rw [resting]; rfl) rfl
  | emptied reading =>
    simpa using inv.turn (by rw [reading]; rfl) rfl
  | handed rest handing =>
    simpa using inv.turn (by rw [handing]; rfl) rfl
  | read raw rest record reading open_ decoded =>
    have words : raw.words = Text.words record.text := by simp only [RawRecord.words, decoded]
    have kept : raw.isRejected = false := by simp only [RawRecord.isRejected, decoded]
    simpa using inv.advance (by rw [reading]; rfl) (by rw [words]; rfl) (by simp [kept])
  | skipped raw rest mismatch reading open_ refused =>
    have words : raw.words = [] := by simp only [RawRecord.words, refused]
    have rejected : raw.isRejected = true := by simp only [RawRecord.isRejected, refused]
    simpa using inv.advance (by rw [reading]; rfl) (by rw [words]; rfl) (by simp [rejected])
  | refused word words rest handing gone =>
    simpa using inv.refuse (by rw [handing]; rfl) (why word words rest handing gone)
  | closed closing =>
    have ended := inv.ended (by rw [closing]; rfl)
    simpa using (⟨inv.read, inv.skipped, inv.tokens, nofun, fun _ => ended⟩ :
      IntakeInv records sent cut .finished config.counters)

def Config.hasFailed (config : Config σ) : Prop :=
  ∃ (shard : Nat) (worker : Worker),
    config.workers[shard]? = some worker ∧ worker.activity = .failed

def Config.hasFailedFor (config : Config σ) (word : String) : Prop :=
  ∃ worker, config.workers[shardOf word config.workers.length]? = some worker ∧
    worker.activity = .failed

theorem Config.Change.failed {before after : Config σ} {action : Config.Action}
    (change : Change world before action after) {shard : Nat} {worker : Worker}
    (found : before.workers[shard]? = some worker) (failed : worker.activity = .failed) :
    after.workers[shard]? = some worker := by
  obtain ⟨next, traffic, moves⟩ := change.moves [] found
  rw [← moves.step.of_failed failed]
  exact moves.found

theorem Config.Change.hasFailed {before after : Config σ} {action : Config.Action}
    (change : Change world before action after) (failed : before.hasFailed) : after.hasFailed := by
  obtain ⟨shard, worker, found, ended⟩ := failed
  exact ⟨shard, worker, change.failed found ended, ended⟩

theorem Config.Change.hasFailedFor {before after : Config σ} {action : Config.Action}
    (change : Change world before action after) {word : String}
    (failed : before.hasFailedFor word) : after.hasFailedFor word := by
  obtain ⟨worker, found, ended⟩ := failed
  refine ⟨worker, ?_, ended⟩
  rw [change.length_workers]
  exact change.failed found ended

theorem IntakeInv.mono {later : Prop}
    (inv : IntakeInv records sent cut dispatcher counters) (grow : cut → later) :
    IntakeInv records sent later dispatcher counters :=
  ⟨inv.read, inv.skipped, inv.tokens, inv.left,
    fun none => (inv.ended none).imp_right fun short => ⟨grow short.1, short.2⟩⟩

section Run

variable {settings : PipelineSettings} {tally : Tally} {stopAt : Option Nat} {surroundings : σ}
  {history : History σ} {config : Config σ}

/-- As long as the dispatcher has words to give, only a failed shard does not take them. -/
theorem Run.hasFailedFor_of_gone
    (run : Run world (Config.start settings tally stopAt surroundings) history config)
    {word : String} (open_ : config.dispatcher.isGone = false)
    (gone : ∀ worker, config.workers[shardOf word config.workers.length]? = some worker →
      worker.isGone = true) : config.hasFailedFor word := by
  have inside : shardOf word config.workers.length < max settings.shards 1 := by
    have below := shardOf_lt word config.workers.length
    rw [run.length_workers] at below ⊢
    omega
  obtain ⟨share, shared⟩ := Tally.exists_share tally
    (show shardOf word config.workers.length < max (max settings.shards 1) 1 by omega)
  have bound : shardOf word config.workers.length < config.workers.length := by
    rw [run.length_workers] at inside ⊢
    exact inside
  have found := List.getElem?_eq_getElem bound
  refine ⟨_, found, ?_⟩
  have inv := run.shardInv shared found
  have ended := gone _ found
  unfold Worker.isGone at ended
  split at ended
  · rename_i finished
    have closed := (inv.closes (by rw [finished]; rfl)).2
    rw [open_] at closed
    cases closed
  · rename_i failed
    exact failed
  · rename_i dead
    exact absurd dead (run.alive found)
  · cases ended

theorem Run.failed_of_gone
    (run : Run world (Config.start settings tally stopAt surroundings) history config)
    {word : String} (open_ : config.dispatcher.isGone = false)
    (gone : ∀ worker, config.workers[shardOf word config.workers.length]? = some worker →
      worker.isGone = true) : config.hasFailed := by
  obtain ⟨worker, found, failed⟩ := run.hasFailedFor_of_gone open_ gone
  exact ⟨_, worker, found, failed⟩

theorem Run.intakeInv
    (run : Run world (Config.start settings tally stopAt surroundings) history config) :
    IntakeInv (History.records world history) (History.dispatched history) config.hasFailed
      config.dispatcher config.counters := by
  induction run with
  | start => exact ⟨Nat.le_refl 0, rfl, rfl, fun _ _ left => by cases left; exact ⟨rfl, rfl⟩, nofun⟩
  | @act history before after action earlier taken ih =>
    have change := (Config.change_of_act taken).2
    have kept := ih.mono change.hasFailed
    rw [History.records_concat, History.dispatched_concat]
    cases change with
    | request | heed | hear | died | returned =>
      simp only [Config.answer?, Config.handed?, Option.toList_none, List.flatMap_nil,
        List.map_nil, List.append_nil]
      exact kept
    | work mine found step unsent counted next =>
      rw [answer?_of_worker? mine, handed?_of_worker? mine]
      simp only [Option.toList_none, List.flatMap_nil, List.map_nil, List.append_nil]
      exact kept
    | intake step asked unhanded next lines =>
      rw [asked, unhanded]
      simp only [Option.toList_none, List.map_nil, List.append_nil]
      exact kept.step step fun word words rest handing gone =>
        earlier.failed_of_gone (by rw [handing]; rfl) gone
    | hand word words rest worker handing found alive room =>
      rw [answer?_of_handing handing, handed?_of_handing handing found alive]
      simpa using kept.hand handing
  | pass time earlier later ih => exact ih

end Run

end Pipeline

end WordTally
