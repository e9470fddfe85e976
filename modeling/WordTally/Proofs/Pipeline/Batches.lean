import WordTally.Proofs.Pipeline.FlushSteps

set_option autoImplicit false

namespace WordTally.Pipeline

variable {σ : Type} {world : World σ}

/-- What is in a shard belongs there, and a flush has something to publish. -/
structure Batched (shards shard : Nat) (worker : Worker) : Prop where
  queue : ∀ word ∈ worker.queue, shardOf word shards = shard
  pending : ∀ update ∈ worker.pending, shardOf update.word shards = shard
  something : worker.isFlushing = true → worker.pending ≠ []

section Shard

variable {config : Config σ} {shard : Nat} {worker next : Worker} {traffic : Traffic}

theorem Batched.apply {shards : Nat} (inv : Batched shards shard worker) {word : String}
    {queue : List String} (front : worker.queue = word :: queue) :
    Batched shards shard ({ worker with queue := queue }.apply word) := by
  have here : ∀ other ∈ word :: queue, shardOf other shards = shard := by
    rw [← front]
    exact inv.queue
  refine ⟨fun other member => here other (List.mem_cons_of_mem _ member), ?_, ?_⟩
  · intro update member
    rcases List.mem_append.mp member with old | new
    · exact inv.pending update old
    · cases List.mem_singleton.mp new
      exact here word List.mem_cons_self
  · exact fun _ => List.append_ne_nil_of_right_ne_nil _ (List.cons_ne_nil _ _)

theorem Batched.step (inv : Batched config.workers.length shard worker)
    (step : ShardStep config shard worker next traffic) :
    Batched config.workers.length shard next := by
  cases step with
  | stay => exact inv
  | sent word route =>
    refine ⟨?_, inv.pending, inv.something⟩
    intro other member
    rcases List.mem_append.mp member with old | new
    · exact inv.queue other old
    · cases List.mem_singleton.mp new
      exact route
  | counted word queue idle front => exact inv.apply front
  | filled word queue delivery lines idle front =>
    have applied := inv.apply front
    exact ⟨applied.queue, applied.pending,
      fun _ => List.append_ne_nil_of_right_ne_nil _ (List.cons_ne_nil _ _)⟩
  | left | ticked =>
    refine ⟨inv.queue, inv.pending, fun busy => ?_⟩
    rw [Worker.not_flushing_rest] at busy
    cases busy
  | drained delivery lines idle empty past something
  | flushed delivery lines idle due something => exact ⟨inv.queue, inv.pending, fun _ => something⟩
  | committed due attempt cause =>
    refine ⟨inv.queue, fun _ member => absurd member List.not_mem_nil, fun busy => ?_⟩
    rw [Worker.not_flushing_committed] at busy
    cases busy
  | paused due attempt error cause lines calling =>
    exact ⟨inv.queue, inv.pending, fun _ => inv.something (by rw [Worker.isFlushing, calling])⟩
  | failed => exact ⟨inv.queue, inv.pending, fun busy => absurd busy Bool.false_ne_true⟩
  | again due attempt cause delivery lines resting =>
    exact ⟨inv.queue, inv.pending, fun _ => inv.something (by rw [Worker.isFlushing, resting])⟩

/-- A call is made in a flush, with everything pending. -/
theorem ShardStep.calls_pending (step : ShardStep config shard worker next traffic) :
    ∀ call ∈ traffic.calls, call.updates = next.pending ∧ next.isFlushing = true := by
  intro call member
  cases step <;> simp only [Traffic.quiet, Traffic.calling, List.not_mem_nil, List.mem_singleton]
    at member
  all_goals
    subst member
    exact ⟨rfl, rfl⟩

/-- Nothing is added to a flush. -/
theorem ShardStep.pending_of_flushing (step : ShardStep config shard worker next traffic)
    (flushing : worker.isFlushing = true) (still : next.isFlushing = true) :
    next.pending = worker.pending := by
  have busy : worker.activity ≠ .receiving := by
    intro idle
    rw [Worker.isFlushing, idle] at flushing
    cases flushing
  cases step with
  | stay | sent | paused | failed | again => rfl
  | counted word queue idle | filled word queue delivery lines idle => exact absurd idle busy
  | left idle | ticked idle | drained delivery lines idle | flushed delivery lines idle => rfl
  | committed due attempt cause =>
    rw [Worker.not_flushing_committed] at still
    cases still

theorem ShardStep.receiving_of_begun (step : ShardStep config shard worker next traffic)
    (calm : worker.isFlushing = false) (begun : next.isFlushing = true) :
    worker.activity = .receiving := by
  cases step with
  | stay | sent =>
    have same : worker.isFlushing = true := begun
    rw [calm] at same
    cases same
  | counted word queue idle | filled word queue delivery lines idle => exact idle
  | left idle | ticked idle => exact idle
  | drained delivery lines idle | flushed delivery lines idle => exact idle
  | committed due attempt cause lines calling =>
    rw [Worker.isFlushing, calling] at calm
    cases calm
  | paused due attempt error cause lines calling =>
    rw [Worker.isFlushing, calling] at calm
    cases calm
  | failed => cases begun
  | again due attempt cause delivery lines resting =>
    rw [Worker.isFlushing, resting] at calm
    cases calm

end Shard

/-- What makes a shard publish so many updates: its commit tick, the end of its queue, or the word
that fills a batch. -/
inductive Trigger (batch : Nat) (shard : Nat) (config : Config σ) (worker : Worker) :
    Config.Action → Nat → Prop where
  | tick (size : Nat) : Trigger batch shard config worker (.tick shard) size
  | drain (size : Nat)
      (empty : worker.queue = [])
      (past : config.dispatcher.isGone = true) :
      Trigger batch shard config worker (.take shard) size
  | full
      (something : worker.queue ≠ []) :
      Trigger batch shard config worker (.take shard) batch

theorem Config.pending_of_flush {config : Config σ} {shard : Nat} {worker next : Worker}
    {cause : FlushCause} (inside : shard < config.workers.length)
    (present : (config.flush world shard worker cause).workers[shard]? = some next)
    (begun : next.isFlushing = true) : next.pending = worker.pending := by
  by_cases something : worker.pending = []
  · rw [flush_eq_setWorker world config shard worker cause something, setWorker,
      List.getElem?_set_self inside] at present
    cases present
    rw [Worker.not_flushing_rest] at begun
    cases begun
  · obtain ⟨delivery, calling, _⟩ := config.publish_call world inside worker 0 cause
    rw [flush_eq_publish world config shard worker cause something, calling] at present
    cases present
    rfl

theorem Config.trigger_of_begun {before after : Config σ} {action : Config.Action} {shard : Nat}
    {worker next : Worker} (taken : before.act world action = some after)
    (mine : action.worker? = some shard) (found : before.workers[shard]? = some worker)
    (idle : worker.activity = .receiving) (present : after.workers[shard]? = some next)
    (begun : next.isFlushing = true) (fits : next.pending.length ≤ before.settings.maxBatch) :
    Trigger before.settings.maxBatch shard before worker action next.pending.length := by
  have open_ := (change_of_act taken).1
  have inside := (List.getElem?_eq_some_iff.mp found).1
  -- The cases of a shard's step do not tell a tick from the end of the queue, the action does.
  cases action with
  | request | heed | supervise | dispatch => cases mine
  | wake other =>
    cases mine
    simp [act, open_, wake?, found, idle] at taken
  | tick other =>
    cases mine
    exact .tick _
  | take other =>
    cases mine
    cases front : worker.queue with
    | nil =>
      simp only [act, open_, Option.isSome_none, Bool.false_eq_true, if_false, take?, found, idle,
        front] at taken
      split at taken
      · rename_i past
        exact .drain _ front past
      · cases taken
    | cons word queue =>
      simp only [act, open_, Option.isSome_none, Bool.false_eq_true, if_false, take?, found, idle,
        front] at taken
      split at taken
      · rename_i full
        cases taken
        rw [← pending_of_flush inside present begun] at full
        rw [Nat.le_antisymm fits full]
        exact .full (by rw [front]; exact List.cons_ne_nil _ _)
      · cases taken
        rw [setWorker, List.getElem?_set_self inside] at present
        cases present
        cases begun

/-- The step that began the flush of a shard that is going on, and the worker at that time. -/
structure FlushSince (history : History σ) (shard : Nat) (origin : Config σ) (worker : Worker)
    (begun : Config.Action) : Prop where
  found : origin.workers[shard]? = some worker
  idle : worker.activity = .receiving
  since : ∃ earlier later, history = earlier ++ (origin, begun) :: later ∧
    ∀ step ∈ later, step.1.isFlushing shard = true

theorem FlushSince.concat {history : History σ} {shard : Nat} {origin before : Config σ}
    {worker : Worker} {begun : Config.Action} (since : FlushSince history shard origin worker begun)
    (flushing : before.isFlushing shard = true) (action : Config.Action) :
    FlushSince (history ++ [(before, action)]) shard origin worker begun := by
  obtain ⟨earlier, later, rfl, within⟩ := since.since
  refine ⟨since.found, since.idle, earlier, later ++ [(before, action)], by simp, ?_⟩
  intro step member
  rcases List.mem_append.mp member with old | new
  · exact within step old
  · cases List.mem_singleton.mp new
    exact flushing

section Run

variable {settings : PipelineSettings} {seed : Tally} {stopAt : Option Nat} {surroundings : σ}
  {history : History σ} {config : Config σ}

theorem Run.batched
    (run : Run world (Config.start settings seed stopAt surroundings) history config)
    {shard : Nat} {worker : Worker} (found : config.workers[shard]? = some worker) :
    Batched (max settings.shards 1) shard worker := by
  induction run generalizing worker with
  | start =>
    obtain ⟨share, _, rfl⟩ := start_worker found
    exact ⟨nofun, nofun, nofun⟩
  | act action earlier taken ih =>
    have change := (Config.change_of_act taken).2
    obtain ⟨former, present⟩ := change.exists_former found
    obtain ⟨next, traffic, moves⟩ := change.moves [] present
    rw [moves.found] at found
    cases found
    have inv := ih present
    rw [← earlier.length_workers] at inv ⊢
    exact inv.step moves.step
  | pass time earlier later ih => exact ih found

theorem Run.pending_fits
    (run : Run world (Config.start settings seed stopAt surroundings) history config)
    {shard : Nat} {worker : Worker} (found : config.workers[shard]? = some worker) :
    worker.pending.length ≤ max settings.maxBatch 1 := by
  obtain ⟨share, inv⟩ := run.shardInv_of_worker found
  exact inv.batch

theorem Config.Change.publications_grow {before after : Config σ} {action : Config.Action}
    (change : Config.Change world before action after) :
    ∃ fresh, after.publications = before.publications ++ fresh := by
  cases change with
  | request | heed | hear | died | returned | intake | hand => exact ⟨[], (List.append_nil _).symm⟩
  | work mine found step => exact ⟨_, rfl⟩

/-- The worker that makes a call is in a flush of what the call carries. -/
theorem Config.Change.flushing_of_call {before after : Config σ} {action : Config.Action}
    (change : Config.Change world before action after) {fresh : List Publication}
    (published : after.publications = before.publications ++ fresh) :
    ∀ call ∈ fresh, ∃ worker, after.workers[call.shard]? = some worker ∧
      worker.isFlushing = true ∧ call.updates = worker.pending := by
  have nothing (same : after.publications = before.publications) : fresh = [] := by
    rw [same] at published
    exact List.self_eq_append_right.mp published
  intro call member
  cases change with
  | request | heed | hear | died | returned | intake | hand =>
    rw [nothing rfl] at member
    cases member
  | work mine found step =>
    cases List.append_cancel_left published
    obtain ⟨same, flushing⟩ := step.calls_pending call member
    rw [step.calls_shard call member]
    exact ⟨_, List.getElem?_set_self (List.getElem?_eq_some_iff.mp found).1, flushing, same⟩

theorem Run.call_batched
    (run : Run world (Config.start settings seed stopAt surroundings) history config) :
    ∀ call ∈ config.publications, call.updates ≠ [] ∧
      call.updates.length ≤ max settings.maxBatch 1 ∧
      ∀ update ∈ call.updates, shardOf update.word (max settings.shards 1) = call.shard := by
  induction run with
  | start => nofun
  | @act history before after action earlier taken ih =>
    have change := (Config.change_of_act taken).2
    obtain ⟨fresh, published⟩ := change.publications_grow
    intro call member
    rw [published] at member
    rcases List.mem_append.mp member with old | new
    · exact ih call old
    · obtain ⟨worker, found, flushing, same⟩ := change.flushing_of_call published call new
      have run := earlier.act action taken
      have inv := run.batched found
      rw [same]
      exact ⟨inv.something flushing, run.pending_fits found, inv.pending⟩
  | pass time earlier later ih => exact ih

/-- A flush that is going on has a trigger, and a full batch it stays until it is over. -/
theorem Run.flushSince
    (run : Run world (Config.start settings seed stopAt surroundings) history config)
    {shard : Nat} {worker : Worker} (found : config.workers[shard]? = some worker)
    (flushing : worker.isFlushing = true) :
    ∃ origin former begun, FlushSince history shard origin former begun ∧
      Trigger (max settings.maxBatch 1) shard origin former begun worker.pending.length := by
  induction run generalizing worker with
  | start =>
    obtain ⟨share, _, rfl⟩ := start_worker found
    cases flushing
  | @act history before after action earlier taken ih =>
    have change := (Config.change_of_act taken).2
    obtain ⟨former, present⟩ := change.exists_former found
    obtain ⟨next, traffic, moves⟩ := change.moves history present
    have same := moves.found
    rw [found] at same
    cases same
    -- Either the flush was going on already, or this step began it.
    by_cases busy : former.isFlushing = true
    · obtain ⟨origin, first, begun, since, trigger⟩ := ih present busy
      have flushing_before : before.isFlushing shard = true := by
        rw [Config.isFlushing, present, Option.any_some, busy]
      rw [moves.step.pending_of_flushing busy flushing]
      exact ⟨origin, first, begun, since.concat flushing_before action, trigger⟩
    · have calm := Bool.eq_false_iff.mpr busy
      have idle := moves.step.receiving_of_begun calm flushing
      have mine : action.worker? = some shard := by
        by_contra other
        obtain ⟨⟨queue, kept⟩, _⟩ := change.elsewhere other present
        rw [found] at kept
        cases kept
        exact busy flushing
      have limit : before.settings.maxBatch = max settings.maxBatch 1 := by
        rw [earlier.settings_eq]
        rfl
      rw [← limit]
      have since : FlushSince (history ++ [(before, action)]) shard before former action :=
        ⟨present, idle, history, [], rfl, fun _ member => absurd member List.not_mem_nil⟩
      refine ⟨before, former, action, since, ?_⟩
      refine Config.trigger_of_begun taken mine present idle found flushing ?_
      rw [limit]
      exact (earlier.act action taken).pending_fits found
  | pass time earlier later ih => exact ih found flushing

/-- The shape of what is published. Every call carries an update, no more than fit into a batch, and
words of its own shard only; no shard has more pending than fits into a batch. The flush that a call
belongs to began with a commit tick, at the end of the queue, or else the call carries a full
batch. -/
theorem Run.batch_shape
    (run : Run world (Config.start settings seed stopAt surroundings) history config) :
    let batch := max settings.maxBatch 1
    (∀ call ∈ config.publications, call.updates ≠ [] ∧ call.updates.length ≤ batch ∧
        ∀ update ∈ call.updates, shardOf update.word (max settings.shards 1) = call.shard) ∧
      (∀ worker ∈ config.workers, worker.pending.length ≤ batch) ∧
      ∀ action after call, config.act world action = some after →
        after.publications = config.publications ++ [call] →
        ∃ origin worker begun,
          FlushSince (history ++ [(config, action)]) call.shard origin worker begun ∧
          Trigger batch call.shard origin worker begun call.updates.length := by
  intro batch
  refine ⟨run.call_batched, ?_, ?_⟩
  · intro worker member
    obtain ⟨shard, found⟩ := List.mem_iff_getElem?.mp member
    exact run.pending_fits found
  · intro action after call taken published
    obtain ⟨worker, found, flushing, same⟩ := (Config.change_of_act taken).2.flushing_of_call
      published call List.mem_cons_self
    rw [same]
    exact (run.act action taken).flushSince found flushing

end Run

/-- The word `red` comes twice and fills the batch of the second shard. -/
theorem seaBatch_shape :
    ∃ history config after, Run Script.world
        (Config.start narrow fiveSeas none (seaScript [])) history config ∧
      config.act Script.world (.take 1) = some after ∧
      after.publications = [⟨0, 1, true, [⟨"red", 1⟩, ⟨"red", 2⟩]⟩] ∧
      (∀ worker ∈ after.workers, worker.pending.length ≤ 2) ∧
      shardOf "red" 2 = 1 ∧
      ∃ origin worker begun,
        FlushSince (history ++ [(config, .take 1)]) 1 origin worker begun ∧
        Trigger 2 1 origin worker begun 2 := by
  let steps : List (Nat × Config.Action) :=
    [.dispatch, .dispatch, .dispatch, .take 1, .dispatch, .dispatch].map fun action => (0, action)
  have shown : ((Config.start narrow fiveSeas none (seaScript [])).replay Script.world steps).map
      (fun result => (result.2.publications,
        (result.2.act Script.world (.take 1)).map Config.publications)) =
        some ([], some [⟨0, 1, true, [⟨"red", 1⟩, ⟨"red", 2⟩]⟩]) := by
    decide +kernel
  obtain ⟨⟨history, config⟩, replayed, same⟩ := Option.map_eq_some_iff.mp shown
  obtain ⟨silent, full⟩ := Prod.mk.inj same
  obtain ⟨after, taken, published⟩ := Option.map_eq_some_iff.mp full
  have run : Run Script.world _ history config := .of_replay replayed
  have grown : after.publications =
      config.publications ++ [⟨0, 1, true, [⟨"red", 1⟩, ⟨"red", 2⟩]⟩] := by
    rw [published, silent]
    rfl
  obtain ⟨calls, pending, _⟩ := (run.act _ taken).batch_shape
  have routed := (calls ⟨0, 1, true, [⟨"red", 1⟩, ⟨"red", 2⟩]⟩
    (by rw [published]; exact List.mem_cons_self)).2.2 ⟨"red", 1⟩ List.mem_cons_self
  exact ⟨history, config, after, run, taken, published, pending, routed,
    run.batch_shape.2.2 _ after _ taken grown⟩

end WordTally.Pipeline
