import WordTally.Proofs.Pipeline.History
import WordTally.Proofs.Tally.Counting

/-
What a shard owes. Words put into its queue are counted in their order, their updates are offered in
that order, and a call that fails is made again with the same updates.
-/

set_option autoImplicit false

namespace WordTally.Pipeline

structure Ledger where
  sent : List String
  counted : List String
  calls : List Publication

namespace Ledger

variable {σ : Type}

def of (history : History σ) (config : Config σ) (shard : Nat) : Ledger :=
  ⟨History.sentTo history shard, History.countedBy history shard, config.callsOf shard⟩

def add (ledger : Ledger) (traffic : Traffic) : Ledger :=
  ⟨ledger.sent ++ traffic.sent, ledger.counted ++ traffic.counted, ledger.calls ++ traffic.calls⟩

@[simp] theorem add_quiet (ledger : Ledger) : ledger.add .quiet = ledger := by
  simp only [add, Traffic.quiet, List.append_nil]

@[simp] theorem add_lines (ledger : Ledger) (mail : List Message) (lines : List LogLine) :
    ledger.add ⟨[], [], [], mail, lines⟩ = ledger := by
  simp only [add, List.append_nil]

end Ledger

/-- The last publish call of the worker failed, and it is not made anew yet. -/
def Activity.retrying : Activity → Bool
  | .publishing _ _ (some _) _ | .pausing _ _ _ | .failed => true
  | _ => false

/-- The worker has learnt that no more words come, and does not take any. -/
def Activity.closes : Activity → Bool
  | .publishing _ _ _ .drain | .pausing _ _ .drain | .finished => true
  | _ => false

/-- The pending updates, unless the sink has accepted them already. -/
def Worker.undelivered (worker : Worker) : List Update :=
  match worker.activity with
  | .publishing _ _ none _ => []
  | _ => worker.pending

/-- The sink may not be offered anything new before it has accepted what it refused. -/
def Unaltered (call next : Publication) : Prop :=
  call.accepted = false → next.updates = call.updates

/-- Nothing is lost, doubled or put out of order between the queue of a shard, its tally, its
pending updates and its sink. -/
structure Conserved (settings : PipelineSettings) (share : Tally) (worker : Worker)
    (ledger : Ledger) : Prop where
  flow : ledger.sent = ledger.counted ++ worker.queue
  tally : worker.tally = (share.countAll ledger.counted).2
  updates : accepted ledger.calls ++ worker.undelivered = (share.countAll ledger.counted).1
  emitted : worker.emitted + worker.pending.length =
    (accepted ledger.calls).length + worker.undelivered.length
  room : worker.queue.length ≤ settings.capacity
  batch : worker.pending.length ≤ settings.maxBatch
  chain : ledger.calls.IsChain Unaltered

/-- The invariant of a shard. -/
structure ShardInv (settings : PipelineSettings) (share : Tally) (past : Bool) (worker : Worker)
    (ledger : Ledger) : Prop extends Conserved settings share worker ledger where
  ready : worker.activity = .receiving → worker.pending.length < settings.maxBatch
  closes : worker.activity.closes = true → worker.queue = [] ∧ past = true
  done : worker.activity = .finished → worker.pending = []
  refused : ∀ call ∈ ledger.calls.getLast?, call.accepted = false →
    call.updates = worker.pending ∧ worker.activity.retrying = true

variable {settings : PipelineSettings} {share : Tally} {worker : Worker} {ledger : Ledger}

theorem Conserved.received (conserved : Conserved settings share worker ledger) (word : String)
    (room : worker.queue.length < settings.capacity) :
    Conserved settings share { worker with queue := worker.queue ++ [word] }
      (ledger.add ⟨[word], [], [], [], []⟩) := by
  simp only [Ledger.add, List.append_nil]
  refine ⟨?_, conserved.tally, conserved.updates, conserved.emitted, ?_, conserved.batch,
    conserved.chain⟩
  · dsimp only
    rw [conserved.flow, List.append_assoc]
  · simp only [List.length_append, List.length_singleton]
    omega

theorem Conserved.applied (conserved : Conserved settings share worker ledger) {word : String}
    {queue : List String} (idle : worker.activity = .receiving)
    (front : worker.queue = word :: queue)
    (small : worker.pending.length + 1 ≤ settings.maxBatch) :
    Conserved settings share ({ worker with queue := queue }.apply word)
      (ledger.add ⟨[], [word], [], [], []⟩) := by
  have undelivered : worker.undelivered = worker.pending := by
    simp only [Worker.undelivered, idle]
  have updates := conserved.updates
  have emitted := conserved.emitted
  rw [undelivered] at updates emitted
  simp only [Ledger.add, List.append_nil]
  refine ⟨?_, ?_, ?_, ?_, ?_, ?_, conserved.chain⟩
  · rw [conserved.flow, front, List.append_assoc]
    rfl
  · rw [Tally.countAll_concat, ← conserved.tally]
    rfl
  · rw [Tally.countAll_concat, ← conserved.tally, ← updates, List.append_assoc]
    simp only [Worker.undelivered, Worker.apply, idle]
  · simp only [Worker.undelivered, Worker.apply, idle, List.length_append, List.length_singleton]
    omega
  · have room := conserved.room
    simp only [front, List.length_cons, Worker.apply] at room ⊢
    omega
  · simp only [Worker.apply, List.length_append, List.length_singleton]
    exact small

theorem Conserved.offered (conserved : Conserved settings share worker ledger)
    (now shard attempt : Nat) (delivery : Delivery) (cause : FlushCause) (lines : List LogLine)
    (undelivered : worker.undelivered = worker.pending)
    (unaltered : ∀ call ∈ ledger.calls.getLast?, call.accepted = false →
      call.updates = worker.pending) :
    Conserved settings share (worker.calling now delivery attempt cause)
      (ledger.add (.calling [] (worker.call now shard delivery) lines)) := by
  have updates := conserved.updates
  have emitted := conserved.emitted
  rw [undelivered] at updates emitted
  simp only [Ledger.add, Traffic.calling, List.append_nil]
  refine ⟨conserved.flow, conserved.tally, ?_, ?_, conserved.room, conserved.batch, ?_⟩
  · rw [accepted_append, ← updates]
    cases outcome : delivery.error <;>
      simp [Worker.undelivered, Worker.calling, Worker.call, accepted, outcome]
  · rw [accepted_append]
    cases outcome : delivery.error
    · simp only [Worker.undelivered, Worker.calling, Worker.call, accepted, outcome,
        Option.isNone_none, List.filter_cons_of_pos, List.filter_nil, List.flatMap_cons,
        List.flatMap_nil, List.append_nil, List.length_append, List.length_nil] at emitted ⊢
      omega
    · simp only [Worker.undelivered, Worker.calling, Worker.call, accepted, outcome,
        Option.isNone_some, Bool.false_eq_true, not_false_eq_true, List.filter_cons_of_neg,
        List.filter_nil, List.flatMap_nil, List.append_nil] at emitted ⊢
      omega
  · rw [List.isChain_append]
    refine ⟨conserved.chain, List.isChain_singleton _, ?_⟩
    intro call last next new failed
    simp only [List.head?_cons, Option.mem_def, Option.some.injEq] at new
    subst new
    exact (unaltered call last failed).symm

theorem Conserved.settled (conserved : Conserved settings share worker ledger)
    {due attempt : Nat} {cause : FlushCause}
    (calling : worker.activity = .publishing due attempt none cause) :
    Conserved settings share (worker.committed cause) ledger := by
  have updates := conserved.updates
  have emitted := conserved.emitted
  simp only [Worker.undelivered, calling, List.append_nil, List.length_nil] at updates emitted
  have nothing : (worker.committed cause).undelivered = [] := by
    cases cause <;> rfl
  refine ⟨conserved.flow, conserved.tally, ?_, ?_, conserved.room, Nat.zero_le _,
    conserved.chain⟩
  · rw [nothing, List.append_nil, updates]
  · rw [nothing]
    exact emitted

/-- A change of the activity alone, as long as it does not hide what is pending. -/
theorem Conserved.turned (conserved : Conserved settings share worker ledger)
    (activity : Activity) (tickDue : Nat) (undelivered : worker.undelivered = worker.pending)
    (kept : ({ worker with activity := activity, tickDue := tickDue }).undelivered =
      worker.pending) :
    Conserved settings share { worker with activity := activity, tickDue := tickDue } ledger := by
  have updates := conserved.updates
  have emitted := conserved.emitted
  rw [undelivered] at updates emitted
  refine ⟨conserved.flow, conserved.tally, ?_, ?_, conserved.room, conserved.batch,
    conserved.chain⟩
  · rw [kept, updates]
  · rw [kept]
    exact emitted

theorem ShardInv.of_call {past : Bool} {now shard attempt : Nat} {delivery : Delivery}
    {cause : FlushCause} {counted : List String} {lines : List LogLine}
    (conserved : Conserved settings share (worker.calling now delivery attempt cause)
      (ledger.add (.calling counted (worker.call now shard delivery) lines)))
    (drain : cause = .drain → worker.queue = [] ∧ past = true) :
    ShardInv settings share past (worker.calling now delivery attempt cause)
      (ledger.add (.calling counted (worker.call now shard delivery) lines)) := by
  refine ⟨conserved, nofun, ?_, nofun, ?_⟩
  · intro closes
    cases cause with
    | drain => exact drain rfl
    | full => cases closes
    | tick => cases closes
  · intro call last failed
    simp only [Ledger.add, Traffic.calling, List.getLast?_concat, Option.mem_def,
      Option.some.injEq] at last
    subst last
    refine ⟨rfl, ?_⟩
    cases outcome : delivery.error with
    | none => simp [Worker.call, outcome] at failed
    | some error => simp [Worker.calling, Activity.retrying, outcome]

/-- A worker that is not flushing has offered nothing that is still open. -/
theorem Worker.undelivered_of_idle (idle : worker.activity = .receiving) :
    worker.undelivered = worker.pending := by
  simp only [undelivered, idle]

theorem Worker.undelivered_of_retrying (retrying : worker.activity.retrying = true) :
    worker.undelivered = worker.pending := by
  unfold undelivered
  split
  · rename_i calling
    rw [calling] at retrying
    cases retrying
  · rfl

namespace ShardInv

variable {past : Bool}

/-- While a worker does not retry, its last publish call was not refused. -/
theorem none_refused (inv : ShardInv settings share past worker ledger)
    (calm : worker.activity.retrying = false) {claim : Publication → Prop} :
    ∀ call ∈ ledger.calls.getLast?, call.accepted = false → claim call := by
  intro call last failed
  have retrying := (inv.refused call last failed).2
  rw [calm] at retrying
  cases retrying

theorem none_refused_of_idle (inv : ShardInv settings share past worker ledger)
    (idle : worker.activity = .receiving) {claim : Publication → Prop} :
    ∀ call ∈ ledger.calls.getLast?, call.accepted = false → claim call :=
  inv.none_refused (by rw [idle]; rfl)

theorem received (inv : ShardInv settings share past worker ledger) (open_ : past = false)
    (word : String) (room : worker.queue.length < settings.capacity) :
    ShardInv settings share past { worker with queue := worker.queue ++ [word] }
      (ledger.add ⟨[word], [], [], [], []⟩) := by
  refine ⟨inv.toConserved.received word room, inv.ready, ?_, inv.done, ?_⟩
  · intro closes
    rw [(inv.closes closes).2] at open_
    cases open_
  · simpa only [Ledger.add, List.append_nil] using inv.refused

section Idle

variable {word : String} {queue : List String}

theorem counted (inv : ShardInv settings share past worker ledger)
    (idle : worker.activity = .receiving) (front : worker.queue = word :: queue)
    (small : worker.pending.length + 1 < settings.maxBatch) :
    ShardInv settings share past ({ worker with queue := queue }.apply word)
      (ledger.add ⟨[], [word], [], [], []⟩) := by
  have receiving : ({ worker with queue := queue }.apply word).activity = .receiving := idle
  refine ⟨inv.toConserved.applied idle front (by omega), ?_, ?_, ?_, ?_⟩
  · intro _
    simpa only [Worker.apply, List.length_append, List.length_singleton] using small
  · intro closes
    rw [receiving] at closes
    cases closes
  · intro finished
    rw [receiving] at finished
    cases finished
  · simp only [Ledger.add, List.append_nil]
    exact inv.none_refused_of_idle idle

theorem filled (inv : ShardInv settings share past worker ledger)
    (idle : worker.activity = .receiving) (front : worker.queue = word :: queue)
    (now shard : Nat) (delivery : Delivery) (lines : List LogLine) :
    ShardInv settings share past
      (({ worker with queue := queue }.apply word).calling now delivery 0 .full)
      (ledger.add (.calling [word] (({ worker with queue := queue }.apply word).call now shard
        delivery) lines)) := by
  have applied := inv.toConserved.applied idle front (inv.ready idle)
  have offered := applied.offered now shard 0 delivery .full lines
    (Worker.undelivered_of_idle idle) (by
      simp only [Ledger.add, List.append_nil]
      exact inv.none_refused_of_idle idle)
  simp only [Ledger.add, Traffic.calling, List.append_nil] at offered
  refine of_call ?_ ?_
  · simpa only [Ledger.add, Traffic.calling, List.append_nil] using offered
  · intro drain
    cases drain

theorem left (inv : ShardInv settings share past worker ledger)
    (idle : worker.activity = .receiving) (empty : worker.queue = []) (ended : past = true)
    (nothing : worker.pending = []) :
    ShardInv settings share past (worker.rest .drain) ledger :=
  ⟨inv.toConserved.turned .finished worker.tickDue (Worker.undelivered_of_idle idle) rfl, nofun,
    fun _ => ⟨empty, ended⟩, fun _ => nothing, inv.none_refused_of_idle idle⟩

theorem drained (inv : ShardInv settings share past worker ledger)
    (idle : worker.activity = .receiving) (empty : worker.queue = []) (ended : past = true)
    (now shard : Nat) (delivery : Delivery) (lines : List LogLine) :
    ShardInv settings share past (worker.calling now delivery 0 .drain)
      (ledger.add (.calling [] (worker.call now shard delivery) lines)) := by
  have offered := inv.toConserved.offered now shard 0 delivery .drain lines
    (Worker.undelivered_of_idle idle) (inv.none_refused_of_idle idle)
  exact of_call offered fun _ => ⟨empty, ended⟩

theorem ticked (inv : ShardInv settings share past worker ledger)
    (idle : worker.activity = .receiving) (now interval : Nat) :
    ShardInv settings share past ((worker.ticked now interval).rest .tick) ledger :=
  ⟨inv.toConserved.turned .receiving (Worker.nextTick worker.tickDue now interval)
      (Worker.undelivered_of_idle idle) rfl,
    fun _ => inv.ready idle, nofun, nofun, inv.none_refused_of_idle idle⟩

theorem flushed (inv : ShardInv settings share past worker ledger)
    (idle : worker.activity = .receiving) (now interval shard : Nat) (delivery : Delivery)
    (lines : List LogLine) :
    ShardInv settings share past ((worker.ticked now interval).calling now delivery 0 .tick)
      (ledger.add (.calling [] (worker.call now shard delivery) lines)) := by
  have undelivered := Worker.undelivered_of_idle idle
  have ticked := inv.toConserved.turned worker.activity
    (Worker.nextTick worker.tickDue now interval) undelivered undelivered
  have offered := ticked.offered now shard 0 delivery .tick lines undelivered
    (inv.none_refused_of_idle idle)
  exact of_call offered nofun

end Idle

theorem committed (inv : ShardInv settings share past worker ledger)
    (positive : 1 ≤ settings.maxBatch) {due attempt : Nat} {cause : FlushCause}
    (calling : worker.activity = .publishing due attempt none cause) :
    ShardInv settings share past (worker.committed cause) ledger := by
  refine ⟨inv.toConserved.settled calling, fun _ => positive, ?_, fun _ => rfl,
    inv.none_refused (by rw [calling]; rfl)⟩
  intro closes
  cases cause with
  | drain => exact inv.closes (by rw [calling]; rfl)
  | full | tick => cases closes

/-- A worker whose call was refused keeps what is pending, be it that it pauses or gives up. -/
theorem withheld (inv : ShardInv settings share past worker ledger) {activity : Activity}
    (refused : worker.activity.retrying = true) (retrying : activity.retrying = true)
    (closes : activity.closes = true → worker.activity.closes = true) :
    ShardInv settings share past { worker with activity := activity } ledger := by
  have kept : ({ worker with activity := activity } : Worker).undelivered = worker.pending :=
    Worker.undelivered_of_retrying retrying
  refine ⟨inv.toConserved.turned activity worker.tickDue (Worker.undelivered_of_retrying refused)
    kept, ?_, fun closing => inv.closes (closes closing), ?_, ?_⟩
  · rintro rfl
    cases retrying
  · rintro rfl
    cases retrying
  · exact fun call last failed => ⟨(inv.refused call last failed).1, retrying⟩

theorem again (inv : ShardInv settings share past worker ledger) {due attempt : Nat}
    {cause : FlushCause} (resting : worker.activity = .pausing due attempt cause)
    (now shard : Nat) (delivery : Delivery) (lines : List LogLine) :
    ShardInv settings share past (worker.calling now delivery attempt cause)
      (ledger.add (.calling [] (worker.call now shard delivery) lines)) := by
  have refused : worker.activity.retrying = true := by rw [resting]; rfl
  have offered := inv.toConserved.offered now shard attempt delivery cause lines
    (Worker.undelivered_of_retrying refused) fun call last failed =>
      (inv.refused call last failed).1
  refine of_call offered ?_
  rintro rfl
  exact inv.closes (by rw [resting]; rfl)

theorem step {σ : Type} {config : Config σ} {shard : Nat} {next : Worker} {traffic : Traffic}
    (inv : ShardInv config.settings share config.dispatcher.isGone worker ledger)
    (positive : 1 ≤ config.settings.maxBatch)
    (step : ShardStep config shard worker next traffic) :
    ShardInv config.settings share config.dispatcher.isGone next (ledger.add traffic) := by
  cases step with
  | stay => rwa [Ledger.add_quiet]
  | sent word route open_ alive room => exact inv.received open_ word room
  | counted word queue idle front small => exact inv.counted idle front small
  | filled word queue delivery lines idle front full =>
    exact inv.filled idle front config.now shard delivery lines
  | left idle empty past nothing =>
    rw [Ledger.add_quiet]
    exact inv.left idle empty past nothing
  | drained delivery lines idle empty past something =>
    exact inv.drained idle empty past config.now shard delivery lines
  | ticked idle due nothing =>
    rw [Ledger.add_quiet]
    exact inv.ticked idle config.now config.settings.commitMillis
  | flushed delivery lines idle due something =>
    exact inv.flushed idle config.now config.settings.commitMillis shard delivery lines
  | committed due attempt cause lines calling elapsed =>
    rw [Ledger.add_lines]
    exact inv.committed positive calling
  | paused due attempt error cause lines calling elapsed retried =>
    rw [Ledger.add_lines]
    refine inv.withheld (by rw [calling]; rfl) rfl ?_
    rw [calling]
    cases cause <;> exact id
  | failed due attempt error cause calling elapsed final =>
    rw [Ledger.add_lines]
    exact inv.withheld (by rw [calling]; rfl) rfl nofun
  | again due attempt cause delivery lines resting elapsed =>
    exact inv.again resting config.now shard delivery lines

end ShardInv

end WordTally.Pipeline
