import WordTally.Proofs.Pipeline.Intake
import Mathlib

/-
What the shards of a run add up to. The report is read off the shards, so each of its figures is a
sum over them, and its tally is what one counter reaches that counts what the shards have counted.
-/

set_option autoImplicit false

namespace WordTally.Pipeline

theorem sum_indicator (place bound : Nat) :
    ((List.range bound).map fun part => if place == part then 1 else 0).sum =
      if place < bound then 1 else 0 := by
  induction bound with
  | zero => rfl
  | succ bound ih =>
    rw [List.range_succ, List.map_append, List.sum_append, ih]
    by_cases here : place = bound
    · simp [here]
    · by_cases before : place < bound
      · simp [here, before, Nat.lt_succ_of_lt before]
      · have behind : ¬ place < bound + 1 := by omega
        simp [here, before, behind]

theorem sum_length_filter {α : Type} {items : List α} {route : α → Nat} {bound : Nat}
    (inside : ∀ item ∈ items, route item < bound) :
    ((List.range bound).map fun part =>
      (items.filter fun item => route item == part).length).sum = items.length := by
  induction items with
  | nil => simp
  | cons head rest ih =>
    have parts : ∀ part, ((head :: rest).filter fun item => route item == part).length =
        (if route head == part then 1 else 0) +
          (rest.filter fun item => route item == part).length := by
      intro part
      by_cases mine : (route head == part) = true
      · simp only [List.filter_cons, mine, ↓reduceIte, List.length_cons]
        omega
      · simp only [List.filter_cons, mine, Bool.false_eq_true, ↓reduceIte]
        omega
    simp only [parts, List.sum_map_add, sum_indicator, inside head List.mem_cons_self, ↓reduceIte,
      ih fun item member => inside item (List.mem_cons_of_mem _ member), List.length_cons]
    omega

/-- A list made of parts has each of them as its part. -/
theorem filter_flatMap_range {α : Type} {parts : Nat → List α} {route : α → Nat} {bound : Nat}
    (own : ∀ part < bound, ∀ item ∈ parts part, route item = part) {part : Nat}
    (inside : part < bound) :
    ((List.range bound).flatMap parts).filter (fun item => route item == part) = parts part := by
  induction bound with
  | zero => omega
  | succ bound ih =>
    rw [List.range_succ, List.flatMap_append, List.filter_append, List.flatMap_singleton]
    by_cases last : part = bound
    · subst last
      have earlier : ((List.range part).flatMap parts).filter (fun item => route item == part)
          = [] := by
        apply List.filter_eq_nil_iff.mpr
        intro item member
        obtain ⟨other, below, mine⟩ := List.mem_flatMap.mp member
        have below := List.mem_range.mp below
        rw [own other (by omega) item mine, beq_iff_eq]
        omega
      have whole : (parts part).filter (fun item => route item == part) = parts part := by
        apply List.filter_eq_self.mpr
        intro item member
        rw [own part inside item member, beq_self_eq_true]
      rw [earlier, whole, List.nil_append]
    · have nothing : (parts bound).filter (fun item => route item == part) = [] := by
        apply List.filter_eq_nil_iff.mpr
        intro item member
        rw [own bound (by omega) item member, beq_iff_eq]
        omega
      rw [ih (fun other below => own other (by omega)) (by omega), nothing, List.append_nil]

theorem Worker.finished_or_failed {worker : Worker} (gone : worker.isGone = true)
    (alive : worker.activity ≠ .panicked) :
    worker.activity = .finished ∨ worker.activity = .failed := by
  unfold Worker.isGone at gone
  split at gone
  · exact .inl ‹_›
  · exact .inr ‹_›
  · exact absurd ‹_› alive
  · cases gone

theorem Config.isGone_of_allGone {σ : Type} {config : Config σ} (gone : config.allGone = true)
    {shard : Nat} {worker : Worker} (found : config.workers[shard]? = some worker) :
    worker.isGone = true := by
  have all := (Bool.and_eq_true_iff.mp gone).2
  exact List.all_eq_true.mp all worker (List.mem_of_getElem? found)

namespace ShardInv

variable {settings : PipelineSettings} {share : Tally} {past : Bool} {worker : Worker}
  {ledger : Ledger}

/-- A shard that finished has counted everything sent, and its sink has accepted every update. -/
theorem of_finished (inv : ShardInv settings share past worker ledger)
    (finished : worker.activity = .finished) :
    ledger.counted = ledger.sent ∧ (accepted ledger.calls).length = ledger.counted.length ∧
      worker.emitted = (accepted ledger.calls).length := by
  have nothing := inv.done finished
  have empty := (inv.closes (by simp only [finished, Activity.closes])).1
  have undelivered : worker.undelivered = [] := by
    simp only [Worker.undelivered, finished, nothing]
  refine ⟨?_, ?_, ?_⟩
  · rw [inv.flow, empty, List.append_nil]
  · rw [← Tally.length_countAll share ledger.counted, ← inv.updates, undelivered,
      List.append_nil]
  · have emitted := inv.emitted
    rw [nothing, undelivered] at emitted
    exact emitted

/-- A shard that failed has counted what its sink accepted and what it has left. -/
theorem of_failed (inv : ShardInv settings share past worker ledger)
    (failed : worker.activity = .failed) :
    ledger.counted.length = (accepted ledger.calls).length + worker.pending.length ∧
      worker.emitted = (accepted ledger.calls).length := by
  have undelivered : worker.undelivered = worker.pending := by
    simp only [Worker.undelivered, failed]
  refine ⟨?_, ?_⟩
  · rw [← Tally.length_countAll share ledger.counted, ← inv.updates, undelivered,
      List.length_append]
  · have emitted := inv.emitted
    rw [undelivered] at emitted
    omega

end ShardInv

section Run

variable {σ : Type} {world : World σ} {settings : PipelineSettings} {tally : Tally}
  {stopAt : Option Nat} {surroundings : σ} {history : History σ} {config : Config σ}

/-- The words that the shards have counted, shard by shard. -/
def History.applied (history : History σ) (shards : Nat) : List String :=
  (List.range shards).flatMap (History.countedBy history)

theorem Run.map_workers {α : Type}
    (run : Run world (Config.start settings tally stopAt surroundings) history config)
    {view : Worker → α} {known : Nat → α}
    (each : ∀ (shard : Nat) (worker : Worker), config.workers[shard]? = some worker →
      view worker = known shard) :
    config.workers.map view = (List.range (max settings.shards 1)).map known := by
  apply List.ext_getElem?
  intro shard
  rw [List.getElem?_map, List.getElem?_map]
  by_cases inside : shard < max settings.shards 1
  · obtain ⟨share, worker, shared, found, inv⟩ := run.exists_shard inside
    rw [found, List.getElem?_range inside, Option.map_some, Option.map_some,
      each shard worker found]
  · have bound : config.workers.length ≤ shard := by
      rw [run.length_workers]
      omega
    rw [List.getElem?_eq_none bound, List.getElem?_eq_none (by rw [List.length_range]; omega)]
    rfl

/-- The tally of the report is that of one counter, if each shard has counted just those words of
the counter that are routed to it. -/
theorem Run.report_tally
    (run : Run world (Config.start settings tally stopAt surroundings) history config)
    {words : List String}
    (each : ∀ shard < max settings.shards 1, History.countedBy history shard =
      words.filter fun word => shardOf word (max settings.shards 1) == shard) :
    config.report.tally = (tally.countAll words).2 := by
  refine Tally.foldl_merge_shards (max settings.shards 1) ?_ ?_
  · rw [List.length_map, run.length_workers]
    omega
  · intro shard share shared
    have inside : shard < max settings.shards 1 := by
      have bound := (List.getElem?_eq_some_iff.mp shared).1
      rw [Tally.length_split] at bound
      omega
    obtain ⟨_, worker, present, found, inv⟩ := run.exists_shard inside
    rw [shared] at present
    cases present
    rw [List.getElem?_map, found, ← each shard inside]
    exact congrArg some inv.tally

/-- Once everybody is gone, a shard has failed or has lost nothing. -/
theorem Run.failed_or_delivered
    (run : Run world (Config.start settings tally stopAt surroundings) history config)
    (gone : config.allGone = true) {shard : Nat} (inside : shard < max settings.shards 1) :
    (∃ worker, config.workers[shard]? = some worker ∧ worker.activity = .failed) ∨
      History.countedBy history shard = History.sentTo history shard ∧
        (accepted (config.callsOf shard)).length = (History.sentTo history shard).length := by
  obtain ⟨share, worker, shared, found, inv⟩ := run.exists_shard inside
  rcases Worker.finished_or_failed (Config.isGone_of_allGone gone found) (run.alive found) with
    finished | failed
  · obtain ⟨counted, delivered, _⟩ := inv.of_finished finished
    have counted : History.countedBy history shard = History.sentTo history shard := counted
    refine .inr ⟨counted, ?_⟩
    rw [← counted]
    exact delivered
  · exact .inl ⟨worker, found, failed⟩

/-- Whatever the shards have counted, the words of each are those routed to it. -/
theorem Run.countedBy_eq
    (run : Run world (Config.start settings tally stopAt surroundings) history config)
    {shard : Nat} (inside : shard < max settings.shards 1) :
    History.countedBy history shard = (History.applied history (max settings.shards 1)).filter
      fun word => shardOf word (max settings.shards 1) == shard := by
  have own : ∀ part < max settings.shards 1, ∀ word ∈ History.countedBy history part,
      shardOf word (max settings.shards 1) = part := by
    intro part below word member
    exact run.sentTo_routed ((run.countedBy_prefix below).subset member)
  rw [History.applied, filter_flatMap_range own inside]

/-- The words sent to the shards are as many as the dispatcher has counted. -/
theorem Run.sum_sent
    (run : Run world (Config.start settings tally stopAt surroundings) history config) :
    ((List.range (max settings.shards 1)).map fun shard =>
      (History.sentTo history shard).length).sum = config.counters.tokensCounted := by
  simp only [run.sentTo_eq]
  rw [sum_length_filter, run.intakeInv.tokens]
  intro word _
  have below := shardOf_lt word (max settings.shards 1)
  omega

theorem Run.sum_accepted
    (run : Run world (Config.start settings tally stopAt surroundings) history config)
    (gone : ∀ (shard : Nat) (worker : Worker), config.workers[shard]? = some worker →
      worker.isGone = true) :
    ((List.range (max settings.shards 1)).map fun shard =>
      (accepted (config.callsOf shard)).length).sum = config.report.updatesEmitted := by
  have each : ∀ (shard : Nat) (worker : Worker), config.workers[shard]? = some worker →
      worker.emitted = (accepted (config.callsOf shard)).length := by
    intro shard worker found
    obtain ⟨share, inv⟩ := run.shardInv_of_worker found
    rcases Worker.finished_or_failed (gone shard worker found) (run.alive found) with
      finished | failed
    · exact (inv.of_finished finished).2.2
    · exact (inv.of_failed failed).2
  rw [← run.map_workers each, List.sum_eq_foldl_nat, List.foldl_map]
  rfl

end Run

end WordTally.Pipeline
