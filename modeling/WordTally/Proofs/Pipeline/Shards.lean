import WordTally.Proofs.Pipeline.Shard
import WordTally.Proofs.Tally.Sharding

set_option autoImplicit false

namespace WordTally.Pipeline

variable {σ : Type} {world : World σ} {before after : Config σ} {action : Config.Action}

theorem Dispatcher.not_gone_of_asking {dispatcher : Dispatcher} {attempt : Nat}
    (asking : dispatcher.asking? = some attempt) : dispatcher.isGone = false := by
  cases dispatcher <;> first | rfl | cases asking

theorem Dispatcher.not_gone_of_heeds {dispatcher : Dispatcher}
    (heeds : dispatcher.heeds = true) : dispatcher.isGone = false := by
  cases dispatcher <;> first | rfl | cases heeds

theorem IntakeStep.not_gone {answer : Option Poll} {dispatcher : Dispatcher} {counters : Counters}
    {mail : List Message} (step : IntakeStep before answer dispatcher counters mail) :
    before.dispatcher.isGone = false := by
  cases step with
  | halted halt heeds => exact Dispatcher.not_gone_of_heeds heeds
  | batch attempt records asking => exact Dispatcher.not_gone_of_asking asking
  | retried attempt error asking | failed attempt error asking =>
    exact Dispatcher.not_gone_of_asking asking
  | awaited attempt millis asking => exact Dispatcher.not_gone_of_asking asking
  | ended attempt asking | stranded attempt asking | died attempt asking =>
    exact Dispatcher.not_gone_of_asking asking
  | resumed due attempt resting => rw [resting]; rfl
  | emptied reading => rw [reading]; rfl
  | read raw rest record reading => rw [reading]; rfl
  | skipped raw rest mismatch reading => rw [reading]; rfl
  | handed rest handing => rw [handing]; rfl
  | refused word words rest handing => rw [handing]; rfl
  | closed closing => rw [closing]; rfl

namespace Config.Change

theorem settings_eq (change : Change world before action after) :
    after.settings = before.settings := by
  cases change <;> rfl

theorem now_eq (change : Change world before action after) : after.now = before.now := by
  cases change <;> rfl

theorem length_workers (change : Change world before action after) :
    after.workers.length = before.workers.length := by
  cases change with
  | hand => exact List.length_set
  | work => exact List.length_set
  | request | heed | hear | died | returned | intake => rfl

theorem exists_former (change : Change world before action after) {shard : Nat} {worker : Worker}
    (found : after.workers[shard]? = some worker) :
    ∃ former, before.workers[shard]? = some former := by
  obtain ⟨bound, _⟩ := List.getElem?_eq_some_iff.mp found
  rw [change.length_workers] at bound
  exact ⟨_, List.getElem?_eq_getElem bound⟩

theorem isGone (change : Change world before action after)
    (gone : before.dispatcher.isGone = true) : after.dispatcher.isGone = true := by
  cases change with
  | request | heed | hear | died | returned | work => exact gone
  | hand word words rest worker handing =>
    rw [handing] at gone
    cases gone
  | intake step =>
    rw [step.not_gone] at gone
    cases gone

end Config.Change

theorem ShardStep.calls_shard {config : Config σ} {shard : Nat} {worker next : Worker}
    {traffic : Traffic} (step : ShardStep config shard worker next traffic) :
    ∀ call ∈ traffic.calls, call.shard = shard := by
  intro call member
  cases step <;> simp only [Traffic.quiet, Traffic.calling, List.not_mem_nil, List.mem_singleton]
    at member
  all_goals
    subst member
    rfl

/-- A shard that is gone does nothing more. -/
theorem ShardStep.stay_of_gone {config : Config σ} {shard : Nat} {worker next : Worker}
    {traffic : Traffic} (step : ShardStep config shard worker next traffic)
    (gone : worker.isGone = true) : next = worker ∧ traffic = .quiet := by
  have idle_not : worker.activity ≠ .receiving := by
    intro idle
    rw [Worker.isGone, idle] at gone
    cases gone
  have calling_not (due attempt : Nat) (error : Option SinkError) (cause : FlushCause) :
      worker.activity ≠ .publishing due attempt error cause := by
    intro calling
    rw [Worker.isGone, calling] at gone
    cases gone
  cases step with
  | stay => exact ⟨rfl, rfl⟩
  | sent word route open_ alive =>
    rw [gone] at alive
    cases alive
  | counted word queue idle | left idle | ticked idle => exact absurd idle idle_not
  | filled word queue delivery lines idle | drained delivery lines idle
  | flushed delivery lines idle => exact absurd idle idle_not
  | committed due attempt cause lines calling => exact absurd calling (calling_not _ _ _ _)
  | paused due attempt error cause lines calling => exact absurd calling (calling_not _ _ _ _)
  | failed due attempt error cause calling => exact absurd calling (calling_not _ _ _ _)
  | again due attempt cause delivery lines resting =>
    rw [Worker.isGone, resting] at gone
    cases gone

theorem ShardStep.stay_of_failed {config : Config σ} {shard : Nat} {worker next : Worker}
    {traffic : Traffic} (step : ShardStep config shard worker next traffic)
    (failed : worker.activity = .failed) : next = worker ∧ traffic = .quiet :=
  step.stay_of_gone (by rw [Worker.isGone, failed])

theorem ShardStep.of_failed {config : Config σ} {shard : Nat} {worker next : Worker}
    {traffic : Traffic} (step : ShardStep config shard worker next traffic)
    (failed : worker.activity = .failed) : next = worker :=
  (step.stay_of_failed failed).1

/-- A shard that fails says how many updates it leaves, tells the supervisor, and does nothing
else. -/
theorem ShardStep.of_failing {config : Config σ} {shard : Nat} {worker next : Worker}
    {traffic : Traffic} (step : ShardStep config shard worker next traffic)
    (running : worker.activity ≠ .failed) (failed : next.activity = .failed) :
    ∃ error, traffic = ⟨[], [], [], [surrender shard error],
      [givingUp shard next.pending.length error]⟩ := by
  cases step with
  | stay => exact absurd failed running
  | sent => exact absurd failed running
  | counted => exact absurd failed running
  | filled | drained | flushed | again => cases failed
  | left | ticked => cases failed
  | committed due attempt cause => cases cause <;> cases failed
  | paused => cases failed
  | failed due attempt error => exact ⟨error, rfl⟩

theorem ShardStep.alive {config : Config σ} {shard : Nat} {worker next : Worker}
    {traffic : Traffic} (step : ShardStep config shard worker next traffic)
    (alive : worker.activity ≠ .panicked) : next.activity ≠ .panicked := by
  cases step with
  | stay | sent | counted => exact alive
  | filled | drained | flushed | again | left | ticked | paused | failed => nofun
  | committed due attempt cause => cases cause <;> nofun

theorem callsOf_append (calls fresh : List Publication) (shard : Nat)
    (own : ∀ call ∈ fresh, call.shard = shard) :
    (calls ++ fresh).filter (fun call => call.shard == shard) =
      calls.filter (fun call => call.shard == shard) ++ fresh := by
  have kept : fresh.filter (fun call => call.shard == shard) = fresh := by
    apply List.filter_eq_self.mpr
    intro call member
    simpa using own call member
  rw [List.filter_append, kept]

theorem callsOf_append_other (calls fresh : List Publication) {shard other : Nat}
    (apart : other ≠ shard) (foreign : ∀ call ∈ fresh, call.shard = other) :
    (calls ++ fresh).filter (fun call => call.shard == shard) =
      calls.filter (fun call => call.shard == shard) := by
  have dropped : fresh.filter (fun call => call.shard == shard) = [] := by
    apply List.filter_eq_nil_iff.mpr
    intro call member
    simpa [foreign call member] using apart
  rw [List.filter_append, dropped, List.append_nil]

/-- What a shard does in one step of a run, with what it tells the supervisor. -/
structure Moves (history : History σ) (before after : Config σ) (action : Config.Action)
    (shard : Nat) (worker next : Worker) (traffic : Traffic) : Prop where
  step : ShardStep before shard worker next traffic
  found : after.workers[shard]? = some next
  ledger : Ledger.of (history ++ [(before, action)]) after shard =
    (Ledger.of history before shard).add traffic
  posted : ∀ message ∈ traffic.mail, message ∈ after.mail

theorem Moves.stay {history : History σ} {shard : Nat} {worker : Worker}
    (found : after.workers[shard]? = some worker)
    (unsent : History.ofShard shard (before.handed? action).toList = [])
    (uncounted : History.ofShard shard (before.counted? action).toList = [])
    (calls : after.callsOf shard = before.callsOf shard) :
    Moves history before after action shard worker worker .quiet := by
  refine ⟨.stay, found, ?_, fun _ member => by cases member⟩
  simp only [Ledger.of, Ledger.add_quiet, History.sentTo_concat, History.countedBy_concat, unsent,
    uncounted, calls, List.append_nil]

theorem handed?_of_worker? {shard : Nat} (mine : action.worker? = some shard) :
    before.handed? action = none := by
  cases action <;> first | rfl | cases mine

theorem answer?_of_worker? {shard : Nat} (mine : action.worker? = some shard) :
    before.answer? world action = none := by
  cases action <;> first | rfl | cases mine

section Handing

variable {word : String} {words : List String} {rest : List RawRecord} {worker : Worker}

theorem answer?_of_handing (handing : before.dispatcher = .handing (word :: words) rest) :
    before.answer? world .dispatch = none := by
  simp only [Config.answer?, handing, ite_self]

theorem handed?_of_handing (handing : before.dispatcher = .handing (word :: words) rest)
    (found : before.workers[shardOf word before.workers.length]? = some worker)
    (alive : worker.isGone = false) :
    before.handed? .dispatch = some (shardOf word before.workers.length, word) := by
  simp [Config.handed?, handing, found, alive]

end Handing

/-- Every step of a run is, for every shard, a step of that shard. -/
theorem Config.Change.moves (change : Change world before action after) (history : History σ)
    {shard : Nat} {worker : Worker} (found : before.workers[shard]? = some worker) :
    ∃ next traffic, Moves history before after action shard worker next traffic := by
  cases change with
  | request | heed | hear | died | returned => exact ⟨worker, .quiet, .stay found rfl rfl rfl⟩
  | intake step asked unhanded next lines =>
    exact ⟨worker, .quiet, .stay found (by rw [unhanded]; rfl) rfl rfl⟩
  | hand word words rest target handing atTarget alive room =>
    have handed := handed?_of_handing handing atTarget alive
    by_cases here : shardOf word before.workers.length = shard
    · have same : target = worker := by
        rw [here, found] at atTarget
        exact (Option.some.inj atTarget).symm
      subst same
      have open_ : before.dispatcher.isGone = false := by rw [handing]; rfl
      refine ⟨_, _, .sent word here open_ alive room, ?_, ?_, fun _ member => by cases member⟩
      · rw [here]
        exact List.getElem?_set_self (List.getElem?_eq_some_iff.mp found).1
      · simp [Ledger.of, Ledger.add, History.sentTo_concat, History.countedBy_concat, handed,
          History.ofShard, here, counted?, callsOf]
    · refine ⟨worker, .quiet, .stay ?_ ?_ rfl rfl⟩
      · rw [List.getElem?_set_ne here]
        exact found
      · rw [handed]
        exact History.ofShard_other here [word]
  | @work action target own next traffic mine atTarget step unsent counted world =>
    by_cases here : target = shard
    · subst here
      rw [found] at atTarget
      cases atTarget
      refine ⟨next, traffic, step, ?_, ?_, ?_⟩
      · exact List.getElem?_set_self (List.getElem?_eq_some_iff.mp found).1
      · simp only [Ledger.of, Ledger.add, History.sentTo_concat, History.countedBy_concat,
          handed?_of_worker? mine, unsent, counted, History.ofShard_same, callsOf, worked,
          callsOf_append _ _ _ step.calls_shard, Option.toList_none, History.ofShard_nil]
      · intro message member
        exact List.mem_append_right _ member
    · refine ⟨worker, .quiet, .stay ?_ ?_ ?_ ?_⟩
      · rw [worked, List.getElem?_set_ne here]
        exact found
      · rw [handed?_of_worker? mine]
        rfl
      · rw [counted]
        exact History.ofShard_other here traffic.counted
      · exact callsOf_append_other _ _ here step.calls_shard

theorem ShardInv.mono {settings : PipelineSettings} {share : Tally} {past later : Bool}
    {worker : Worker} {ledger : Ledger} (inv : ShardInv settings share past worker ledger)
    (grow : past = true → later = true) : ShardInv settings share later worker ledger :=
  ⟨inv.toConserved, inv.ready, fun closes => ⟨(inv.closes closes).1, grow (inv.closes closes).2⟩,
    inv.done, inv.refused⟩

theorem ShardInv.fresh {settings : PipelineSettings} (share : Tally) (past : Bool) (tickDue : Nat)
    (positive : 1 ≤ settings.maxBatch) :
    ShardInv settings share past ⟨share, [], [], 0, .receiving, tickDue⟩ ⟨[], [], []⟩ :=
  ⟨⟨rfl, rfl, rfl, rfl, Nat.zero_le _, Nat.zero_le _, .nil⟩, fun _ => positive, nofun, nofun,
    nofun⟩

section Run

variable {settings : PipelineSettings} {tally : Tally} {stopAt : Option Nat} {surroundings : σ}
  {history : History σ} {config : Config σ}

theorem Run.settings_eq
    (run : Run world (Config.start settings tally stopAt surroundings) history config) :
    config.settings = settings.clamped := by
  induction run with
  | start => rfl
  | act action earlier taken ih => rw [(Config.change_of_act taken).2.settings_eq, ih]
  | pass time earlier later ih => exact ih

theorem Run.length_workers
    (run : Run world (Config.start settings tally stopAt surroundings) history config) :
    config.workers.length = max settings.shards 1 := by
  induction run with
  | start =>
    change ((tally.split settings.clamped.shards).map _).length = _
    simp [PipelineSettings.clamped]
  | act action earlier taken ih => rw [(Config.change_of_act taken).2.length_workers, ih]
  | pass time earlier later ih => exact ih

theorem clamped_maxBatch_pos (settings : PipelineSettings) : 1 ≤ settings.clamped.maxBatch :=
  Nat.le_max_right _ _

/-- At the start a worker has its share of the tally and nothing else. -/
theorem start_worker {shard : Nat} {worker : Worker}
    (found : (Config.start settings tally stopAt surroundings).workers[shard]? = some worker) :
    ∃ share, (tally.split (max settings.shards 1))[shard]? = some share ∧
      worker = ⟨share, [], [], 0, .receiving, settings.clamped.commitMillis⟩ := by
  change ((tally.split (max settings.shards 1)).map _)[shard]? = _ at found
  rw [List.getElem?_map, Option.map_eq_some_iff] at found
  obtain ⟨share, shared, same⟩ := found
  exact ⟨share, shared, same.symm⟩

/-- No worker dies in a run. -/
theorem Run.alive
    (run : Run world (Config.start settings tally stopAt surroundings) history config)
    {shard : Nat} {worker : Worker} (found : config.workers[shard]? = some worker) :
    worker.activity ≠ .panicked := by
  induction run generalizing worker with
  | start =>
    obtain ⟨share, _, rfl⟩ := start_worker found
    nofun
  | act action earlier taken ih =>
    have change := (Config.change_of_act taken).2
    obtain ⟨former, present⟩ := change.exists_former found
    obtain ⟨next, traffic, moves⟩ := change.moves [] present
    rw [moves.found] at found
    cases found
    exact moves.step.alive (ih present)
  | pass time earlier later ih => exact ih found

theorem Config.hasDied_iff : config.hasDied = true ↔ config.dispatcher = .panicked ∨
    ∃ (shard : Nat) (worker : Worker),
      config.workers[shard]? = some worker ∧ worker.activity = .panicked := by
  have lost : (config.workers.any fun worker => worker.activity = .panicked) = true ↔
      ∃ (shard : Nat) (worker : Worker),
        config.workers[shard]? = some worker ∧ worker.activity = .panicked := by
    simp only [List.any_eq_true, List.mem_iff_getElem?, decide_eq_true_eq]
    exact ⟨fun ⟨worker, ⟨shard, found⟩, dead⟩ => ⟨shard, worker, found, dead⟩,
      fun ⟨shard, worker, found, dead⟩ => ⟨worker, ⟨shard, found⟩, dead⟩⟩
  unfold hasDied
  split
  · rename_i panicked
    simp [panicked]
  · rename_i alive
    rw [lost]
    exact ⟨.inr, fun dead => dead.resolve_left alive⟩

theorem Config.dispatcher_ne_of_alive (alive : config.hasDied = false) :
    config.dispatcher ≠ .panicked := by
  intro panicked
  rw [hasDied_iff.mpr (.inl panicked)] at alive
  cases alive

theorem Run.hasDied_iff
    (run : Run world (Config.start settings tally stopAt surroundings) history config) :
    config.hasDied = true ↔ config.dispatcher = .panicked := by
  rw [Config.hasDied_iff]
  constructor
  · rintro (panicked | ⟨shard, worker, found, dead⟩)
    · exact panicked
    · exact absurd dead (run.alive found)
  · exact .inl

/-- The invariant of every shard holds in every run. -/
theorem Run.shardInv
    (run : Run world (Config.start settings tally stopAt surroundings) history config)
    {shard : Nat} {share : Tally} {worker : Worker}
    (shared : (tally.split (max settings.shards 1))[shard]? = some share)
    (found : config.workers[shard]? = some worker) :
    ShardInv settings.clamped share config.dispatcher.isGone worker
      (Ledger.of history config shard) := by
  induction run generalizing worker with
  | start =>
    obtain ⟨same, present, rfl⟩ := start_worker found
    rw [shared] at present
    cases present
    exact .fresh share _ _ (clamped_maxBatch_pos settings)
  | @act history before after action earlier taken ih =>
    have change := (Config.change_of_act taken).2
    obtain ⟨former, present⟩ := change.exists_former found
    obtain ⟨next, traffic, moves⟩ := change.moves history present
    rw [moves.found] at found
    cases found
    have positive : 1 ≤ before.settings.maxBatch := by
      rw [earlier.settings_eq]
      exact clamped_maxBatch_pos settings
    have inv := ih present
    rw [← earlier.settings_eq] at inv ⊢
    rw [moves.ledger]
    exact (inv.step positive moves.step).mono change.isGone
  | pass time earlier later ih => exact ih found

/-- Every shard below the number of shards has a worker and a share of the first tally. -/
theorem Run.exists_shard
    (run : Run world (Config.start settings tally stopAt surroundings) history config)
    {shard : Nat} (inside : shard < max settings.shards 1) :
    ∃ share worker, (tally.split (max settings.shards 1))[shard]? = some share ∧
      config.workers[shard]? = some worker ∧
      ShardInv settings.clamped share config.dispatcher.isGone worker
        (Ledger.of history config shard) := by
  obtain ⟨share, shared⟩ := Tally.exists_share tally
    (show shard < max (max settings.shards 1) 1 by omega)
  have found := List.getElem?_eq_getElem (show shard < config.workers.length by
    rw [run.length_workers]
    exact inside)
  exact ⟨share, _, shared, found, run.shardInv shared found⟩

theorem Run.shardInv_of_worker
    (run : Run world (Config.start settings tally stopAt surroundings) history config)
    {shard : Nat} {worker : Worker} (found : config.workers[shard]? = some worker) :
    ∃ share, ShardInv settings.clamped share config.dispatcher.isGone worker
      (Ledger.of history config shard) := by
  have bound := (List.getElem?_eq_some_iff.mp found).1
  rw [run.length_workers] at bound
  obtain ⟨share, same, shared, present, inv⟩ := run.exists_shard bound
  rw [found] at present
  cases present
  exact ⟨share, inv⟩

theorem Run.countedBy_prefix
    (run : Run world (Config.start settings tally stopAt surroundings) history config)
    {shard : Nat} (inside : shard < max settings.shards 1) :
    History.countedBy history shard <+: History.sentTo history shard := by
  obtain ⟨share, worker, shared, found, inv⟩ := run.exists_shard inside
  exact ⟨worker.queue, inv.flow.symm⟩

theorem route_of_handed? {item : Nat × String} (handed : config.handed? action = some item) :
    item.1 = shardOf item.2 config.workers.length := by
  unfold Config.handed? at handed
  split at handed
  · split at handed
    · dsimp only at handed
      split at handed
      · split at handed
        · cases handed
        · cases handed
          rfl
      · cases handed
    · cases handed
  · cases handed

theorem Run.route_of_handed
    (run : Run world (Config.start settings tally stopAt surroundings) history config) :
    ∀ item ∈ History.handed history, item.1 = shardOf item.2 (max settings.shards 1) := by
  induction run with
  | start => nofun
  | act action earlier taken ih =>
    intro item member
    rw [History.handed_concat] at member
    rcases List.mem_append.mp member with old | new
    · exact ih item old
    · rw [← earlier.length_workers]
      exact route_of_handed? (Option.mem_toList.mp new)
  | pass time earlier later ih => exact ih

/-- A shard is sent the dispatched words that are routed to it, in order. -/
theorem Run.sentTo_eq
    (run : Run world (Config.start settings tally stopAt surroundings) history config)
    (shard : Nat) :
    History.sentTo history shard = (History.dispatched history).filter fun word =>
      shardOf word (max settings.shards 1) == shard := by
  rw [History.sentTo, History.ofShard, History.dispatched, List.filter_map]
  congr 1
  apply List.filter_congr
  intro item member
  simp only [run.route_of_handed item member, Function.comp_apply]

theorem Run.sentTo_routed
    (run : Run world (Config.start settings tally stopAt surroundings) history config)
    {shard : Nat} {word : String} (member : word ∈ History.sentTo history shard) :
    shardOf word (max settings.shards 1) = shard := by
  rw [run.sentTo_eq] at member
  exact beq_iff_eq.mp (List.mem_filter.mp member).2

end Run

end WordTally.Pipeline
