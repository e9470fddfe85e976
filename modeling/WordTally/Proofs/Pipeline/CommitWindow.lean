import WordTally.Proofs.Pipeline.Shards

/-
How long an update waits in a shard. On the virtual clock time passes only when no task can take a
step, so it never passes over a commit tick that a receiving worker waits for. The next tick is at
most one interval away, whichever way the last one was late, and so it is due no later than one
interval after the oldest update that is pending.
-/

set_option autoImplicit false

namespace WordTally.Pipeline

variable {σ : Type} {world : World σ}

/-- A run so far on the virtual clock. -/
inductive Clocked (world : World σ) (first : Config σ) : History σ → Config σ → Prop where
  | start : Clocked world first [] first
  | act {history : History σ} {before after : Config σ} (action : Config.Action)
      (earlier : Clocked world first history before)
      (taken : before.act world action = some after) :
      Clocked world first (history ++ [(before, action)]) after
  | advance {history : History σ} {before after : Config σ}
      (earlier : Clocked world first history before)
      (taken : before.advance? world = some after) :
      Clocked world first history after

variable {first : Config σ} {history : History σ} {config before after : Config σ}

theorem Clocked.run (clocked : Clocked world first history config) :
    Run world first history config := by
  induction clocked with
  | start => exact .start
  | act action earlier taken ih => exact ih.act action taken
  | advance earlier taken ih =>
    obtain ⟨_, _, time, later, _, rfl⟩ := Config.of_advance taken
    exact ih.pass time (Nat.le_of_lt later)

theorem Clocked.of_step (clocked : Clocked world first history before)
    (step : Config.Step world before after) : ∃ later, Clocked world first later after := by
  cases step with
  | act action taken => exact ⟨_, clocked.act action taken⟩
  | advance taken => exact ⟨_, clocked.advance taken⟩

theorem exists_clocked_of_run (world : World σ) (patience : Nat) (settings : PipelineSettings)
    (tally : Tally) (stopAt : Option Nat) (surroundings : σ) :
    ∃ history, Clocked world (Config.start settings tally stopAt surroundings) history
      (run world patience settings tally stopAt surroundings) :=
  Schedule.keeps_of_steps (fun config => ∃ history, Clocked world _ history config)
    (fun _ _ ⟨_, earlier⟩ step => earlier.of_step step) ⟨[], .start⟩

/-- The update that a step produces for a shard, with the time. -/
def Config.produced (config : Config σ) (action : Action) (shard : Nat) : List (Nat × Update) :=
  (History.ofShard shard (config.counted? action).toList).filterMap fun word =>
    (config.workers[shard]?).map fun worker => (config.now, (worker.tally.count word).1)

def History.producedBy (history : History σ) (shard : Nat) : List (Nat × Update) :=
  history.flatMap fun step => step.1.produced step.2 shard

theorem History.producedBy_concat (history : History σ) (config : Config σ)
    (action : Config.Action) (shard : Nat) :
    producedBy (history ++ [(config, action)]) shard =
      producedBy history shard ++ config.produced action shard := by
  simp only [producedBy, List.flatMap_append, List.flatMap_singleton]

/-- These updates are the last ones that were produced, and none of them before a certain time. -/
def LastSince (produced : List (Nat × Update)) (updates : List Update) (time : Nat) : Prop :=
  ∃ earlier recent, produced = earlier ++ recent ∧ recent.map Prod.snd = updates ∧
    ∀ item ∈ recent, time ≤ item.1

namespace LastSince

variable {produced : List (Nat × Update)} {updates : List Update} {time earlier now : Nat}

theorem nothing (produced : List (Nat × Update)) (time : Nat) : LastSince produced [] time :=
  ⟨produced, [], (List.append_nil _).symm, rfl, nofun⟩

theorem mono (last : LastSince produced updates time) (before : earlier ≤ time) :
    LastSince produced updates earlier := by
  obtain ⟨front, recent, same, shown, since⟩ := last
  exact ⟨front, recent, same, shown, fun item member => before.trans (since item member)⟩

theorem concat (last : LastSince produced updates time) (update : Update) (past : time ≤ now) :
    LastSince (produced ++ [(now, update)]) (updates ++ [update]) time := by
  obtain ⟨front, recent, rfl, rfl, since⟩ := last
  refine ⟨front, recent ++ [(now, update)], List.append_assoc .., by simp, ?_⟩
  intro item member
  rcases List.mem_append.mp member with old | new
  · exact since item old
  · cases List.mem_singleton.mp new
    exact past

end LastSince

theorem Worker.nextTick_le {due now interval : Nat} (elapsed : due ≤ now) :
    nextTick due now interval ≤ now + interval := by
  unfold nextTick
  split <;> omega

/-- The next tick is at most an interval away. While a worker receives, what it keeps was produced
at most an interval before the next tick, and at most an interval ago. -/
structure Timely (now interval : Nat) (worker : Worker) (produced : List (Nat × Update)) :
    Prop where
  tick : worker.tickDue ≤ now + interval
  window : worker.activity = .receiving →
    LastSince produced worker.pending (max worker.tickDue now - interval)

namespace Timely

variable {shard : Nat} {worker next : Worker} {traffic : Traffic}
  {produced : List (Nat × Update)}

theorem nothing_pending {now interval : Nat} (tick : worker.tickDue ≤ now + interval)
    (empty : worker.pending = []) : Timely now interval worker produced := by
  refine ⟨tick, fun _ => ?_⟩
  rw [empty]
  exact .nothing produced _

theorem busy {now interval : Nat} (tick : worker.tickDue ≤ now + interval)
    (busy : worker.activity ≠ .receiving) : Timely now interval worker produced :=
  ⟨tick, fun idle => absurd idle busy⟩

def dated (config : Config σ) (worker : Worker) (traffic : Traffic) : List (Nat × Update) :=
  traffic.counted.map fun word => (config.now, (worker.tally.count word).1)

theorem step (timely : Timely config.now config.settings.commitMillis worker produced)
    (step : ShardStep config shard worker next traffic) :
    Timely config.now config.settings.commitMillis next
      (produced ++ dated config worker traffic) := by
  have tick := timely.tick
  cases step with
  | stay => simpa only [dated, Traffic.quiet, List.map_nil, List.append_nil] using timely
  | sent =>
    simp only [dated, List.map_nil, List.append_nil]
    exact ⟨tick, timely.window⟩
  | counted word queue idle front small =>
    refine ⟨tick, fun _ => (timely.window idle).concat _ ?_⟩
    omega
  | filled | left | drained | paused | failed | again =>
    refine busy tick fun idle => ?_
    cases idle
  | ticked idle due nothing => exact nothing_pending (Worker.nextTick_le due) nothing
  | flushed delivery lines idle due something =>
    refine busy (Worker.nextTick_le due) fun idle => ?_
    cases idle
  | committed due attempt cause => exact nothing_pending tick rfl

/-- The first call of a flush publishes nothing that was produced more than an interval ago. -/
theorem call (timely : Timely config.now config.settings.commitMillis worker produced)
    (step : ShardStep config shard worker next traffic) (idle : worker.activity = .receiving)
    {call : Publication} (made : call ∈ traffic.calls) :
    call.time = config.now ∧ LastSince (produced ++ dated config worker traffic) call.updates
      (config.now - config.settings.commitMillis) := by
  have waited := (timely.window idle).mono
    (show config.now - config.settings.commitMillis ≤
      max worker.tickDue config.now - config.settings.commitMillis by omega)
  cases step with
  | stay | sent | counted | left | ticked | committed | paused | failed => cases made
  | filled word queue delivery lines =>
    cases List.mem_singleton.mp made
    exact ⟨rfl, waited.concat _ (Nat.sub_le _ _)⟩
  | drained delivery lines =>
    cases List.mem_singleton.mp made
    refine ⟨rfl, ?_⟩
    rw [dated, Traffic.calling, List.map_nil, List.append_nil]
    exact waited
  | flushed delivery lines =>
    cases List.mem_singleton.mp made
    refine ⟨rfl, ?_⟩
    rw [dated, Traffic.calling, List.map_nil, List.append_nil]
    exact waited
  | again due attempt cause delivery lines resting =>
    rw [idle] at resting
    cases resting

end Timely

/-- What a step produces for a shard is what the shard counts in it. -/
theorem Moves.produced {action : Config.Action} {shard : Nat} {worker next : Worker}
    {traffic : Traffic} (moves : Moves history before after action shard worker next traffic)
    (found : before.workers[shard]? = some worker) :
    before.produced action shard = Timely.dated before worker traffic := by
  have counted := congrArg Ledger.counted moves.ledger
  simp only [Ledger.of, Ledger.add, History.countedBy_concat, List.append_cancel_left_eq] at counted
  simp only [Config.produced, counted, found, Option.map_some, List.filterMap_eq_map',
    Timely.dated]

/-- A receiving worker's tick is not due when no task can take a step, and the clock does not pass
over it. -/
theorem Config.lt_tickDue_of_quiet {shard : Nat} {worker : Worker}
    (open_ : config.outcome = none) (quiet : config.isQuiet world = true)
    (found : config.workers[shard]? = some worker) (idle : worker.activity = .receiving) :
    config.now < worker.tickDue ∧ worker.tickDue ∈ config.timers := by
  have inside := (List.getElem?_eq_some_iff.mp found).1
  have ahead : config.now < worker.tickDue := by
    by_contra late
    have known : Action.tick shard ∈ config.actions := by
      simp only [actions, List.mem_append, List.mem_flatMap, List.mem_range]
      exact .inr ⟨shard, inside, by simp⟩
    have refused := List.all_eq_true.mp quiet _ known
    simp [act, open_, tick?, found, idle, Nat.le_of_not_lt late] at refused
  refine ⟨ahead, List.mem_filter.mpr ⟨?_, decide_eq_true ahead⟩⟩
  refine List.mem_append_left _ (List.mem_append_right _ ?_)
  refine List.mem_flatMap.mpr ⟨worker, List.mem_of_getElem? found, ?_⟩
  simp [idle]

section Run

variable {settings : PipelineSettings} {seed : Tally} {stopAt : Option Nat} {surroundings : σ}

theorem Clocked.timely
    (clocked : Clocked world (Config.start settings seed stopAt surroundings) history config)
    {shard : Nat} {worker : Worker} (found : config.workers[shard]? = some worker) :
    Timely config.now config.settings.commitMillis worker (History.producedBy history shard) := by
  induction clocked generalizing worker with
  | start =>
    obtain ⟨share, _, rfl⟩ := start_worker found
    exact .nothing_pending (Nat.le_add_left _ _) rfl
  | @act history before after action earlier taken ih =>
    have change := (Config.change_of_act taken).2
    obtain ⟨former, present⟩ := change.exists_former found
    obtain ⟨next, traffic, moves⟩ := change.moves history present
    rw [moves.found] at found
    cases found
    rw [History.producedBy_concat, moves.produced present, change.settings_eq, change.now_eq]
    exact (ih present).step moves.step
  | @advance history before after earlier taken ih =>
    obtain ⟨open_, quiet, time, later, within, rfl⟩ := Config.of_advance taken
    have timely := ih found
    refine ⟨timely.tick.trans (Nat.add_le_add_right (Nat.le_of_lt later) _), fun idle => ?_⟩
    -- The tick is still to come, so that the window does not depend on the time yet.
    obtain ⟨ahead, waits⟩ := Config.lt_tickDue_of_quiet open_ quiet found idle
    have notPast := within _ waits
    refine (timely.window idle).mono ?_
    dsimp only
    omega

/-- No update waits in a shard for longer than the commit interval, which is at least a millisecond.

Whenever a shard is not flushing, what it keeps are the last updates it has produced; the next tick
is due no later than an interval after each of them, and none of them is older than an interval. And
whenever it begins a flush, each update of the first publish call was produced at most an interval
before the call. -/
theorem Clocked.commit_window
    (clocked : Clocked world (Config.start settings seed stopAt surroundings) history config)
    {shard : Nat} {worker : Worker} (found : config.workers[shard]? = some worker)
    (receiving : worker.activity = .receiving) :
    (∃ earlier recent, History.producedBy history shard = earlier ++ recent ∧
        recent.map Prod.snd = worker.pending ∧
        ∀ item ∈ recent, worker.tickDue ≤ item.1 + max settings.commitMillis 1 ∧
          config.now ≤ item.1 + max settings.commitMillis 1) ∧
      ∀ action after call, config.act world action = some after →
        after.publications = config.publications ++ [call] → call.shard = shard →
        ∃ earlier flushed,
          History.producedBy (history ++ [(config, action)]) shard = earlier ++ flushed ∧
          flushed.map Prod.snd = call.updates ∧ call.time = config.now ∧
          ∀ item ∈ flushed, call.time ≤ item.1 + max settings.commitMillis 1 := by
  have timely := clocked.timely found
  have interval : config.settings.commitMillis = max settings.commitMillis 1 := by
    rw [clocked.run.settings_eq]
    rfl
  refine ⟨?_, ?_⟩
  · obtain ⟨earlier, recent, same, shown, since⟩ := timely.window receiving
    refine ⟨earlier, recent, same, shown, fun item member => ?_⟩
    have late := since item member
    omega
  · intro action after call taken published own
    have change := (Config.change_of_act taken).2
    obtain ⟨next, traffic, moves⟩ := change.moves history found
    have made : call ∈ traffic.calls := by
      have calls := congrArg Ledger.calls moves.ledger
      simp only [Ledger.of, Ledger.add, Config.callsOf, published, List.filter_append,
        List.filter_singleton, own, beq_self_eq_true, List.append_cancel_left_eq] at calls
      rw [← calls]
      exact List.mem_singleton_self _
    obtain ⟨now, earlier, flushed, same, shown, since⟩ := timely.call moves.step receiving made
    refine ⟨earlier, flushed, ?_, shown, now, fun item member => ?_⟩
    · rw [History.producedBy_concat, moves.produced found, same]
    · have late := since item member
      omega

end Run

def tenMillis : PipelineSettings :=
  { PipelineSettings.standard with commitMillis := 10, maxBatch := 2 }

def slowScript : Script :=
  ⟨[.answer (.batch [.ofLine 0 0 "Sea, sun."]), .sleep 7, .answer (.batch [.ofLine 0 1 "Red"]),
    .sleep 23, .answer (.batch [.ofLine 0 2 "sea"]), .sleep 9], none, [[⟨25, none⟩]], 0, 0⟩

/-- The moment of the second tick that has something to publish. -/
def slowRun : Config Script := run Script.world 57 tenMillis Tally.empty none slowScript

/-- The tick that was late at 25 is due again at 35, and publishes a word that was counted at 30. -/
theorem slowRun_commit_window :
    ∃ history earlier flushed,
      Clocked Script.world (Config.start tenMillis Tally.empty none slowScript) history slowRun ∧
      History.producedBy (history ++ [(slowRun, .tick 0)]) 0 = earlier ++ flushed ∧
      flushed.map Prod.snd = [⟨"sea", 2⟩] ∧ ∀ item ∈ flushed, 35 ≤ item.1 + 10 := by
  obtain ⟨history, slow⟩ := exists_clocked_of_run Script.world 57 tenMillis Tally.empty none
    slowScript
  have idle : (slowRun.workers[0]?).map Worker.activity = some .receiving := by decide +kernel
  have flush : (slowRun.act Script.world (.tick 0)).map Config.publications =
      some (slowRun.publications ++ [⟨35, 0, true, [⟨"sea", 2⟩]⟩]) := by
    decide +kernel
  obtain ⟨worker, found, receiving⟩ := Option.map_eq_some_iff.mp idle
  obtain ⟨after, taken, published⟩ := Option.map_eq_some_iff.mp flush
  obtain ⟨earlier, flushed, same, shown, _, since⟩ :=
    (slow.commit_window found receiving).2 _ after _ taken published rfl
  exact ⟨history, earlier, flushed, slow, same, shown, since⟩

end WordTally.Pipeline
