import WordTally.Proofs.Pipeline.History

set_option autoImplicit false

namespace WordTally.Pipeline

variable {σ : Type} {world : World σ} {before after : Config σ} {action : Config.Action}

inductive SourceCall where
  /-- A new poll. -/
  | poll
  /-- A poll that waited goes on. -/
  | resume
  | close
  deriving DecidableEq, Repr

namespace Config

/-- What a step asks of the source; `world_of_dispatch` says that it asks for nothing else. -/
def sourceCall? (config : Config σ) : Action → Option SourceCall
  | .dispatch =>
    match config.dispatcher with
    | .polling _ => if config.halted then none else some .poll
    | .waiting _ _ => if config.halted then none else some .resume
    | .closing => some .close
    | _ => none
  | _ => none

def answered (world : World σ) (state : σ) : Option SourceCall → σ
  | none => state
  | some .poll => (world.poll state).world
  | some .resume => (world.resume state).world
  | some .close => (world.close state).world

theorem world_receive (config : Config σ) (attempt : Nat) (reply : Reply σ Poll) :
    (config.receive attempt reply).world = reply.world := by
  obtain ⟨answer, lines, next⟩ := reply
  cases answer with
  | failed error =>
    by_cases again : (error.isTransient && config.settings.sourceRetry.allows attempt) = true
    · simp [receive, received, sayAll, say, again]
    · simp [receive, received, sayAll, say, post, again]
  | batch | endOfStream | wait | interrupted | panicked => rfl

theorem world_read (config : Config σ) (raw : RawRecord) (rest : List RawRecord) :
    (config.read raw rest).world = config.world := by
  unfold read
  cases raw.decode <;> rfl

theorem world_hand {config next : Config σ} {word : String} {words : List String}
    {rest : List RawRecord} (taken : config.hand? word words rest = some next) :
    next.world = config.world := by
  unfold hand? at taken
  dsimp only at taken
  split at taken
  · cases taken
    rfl
  · split at taken
    · cases taken
      rfl
    · split at taken
      · cases taken
        rfl
      · cases taken

theorem world_close (config : Config σ) :
    (close world config).world = (world.close config.world).world := by
  unfold close
  dsimp only
  split <;> rfl

/-- The dispatcher meets the surroundings in the calls of its source only. -/
theorem world_of_dispatch (taken : before.dispatch? world = some after) :
    after.world = answered world before.world (before.sourceCall? .dispatch) := by
  unfold dispatch? at taken
  unfold sourceCall?
  cases state : before.dispatcher with
  | polling attempt =>
    simp only [state] at taken ⊢
    by_cases halt : before.halted = true
    · rw [if_pos halt] at taken ⊢
      cases taken
      rfl
    · rw [if_neg halt] at taken ⊢
      cases taken
      exact world_receive before attempt _
  | waiting due attempt =>
    simp only [state] at taken ⊢
    by_cases halt : before.halted = true
    · rw [if_pos halt] at taken ⊢
      cases taken
      rfl
    · rw [if_neg halt] at taken ⊢
      split at taken
      · cases taken
        exact world_receive before attempt _
      · cases taken
  | stranded =>
    simp only [state] at taken ⊢
    split at taken
    · cases taken
      rfl
    · cases taken
  | pausing due attempt =>
    simp only [state] at taken ⊢
    split at taken
    · cases taken
      rfl
    · split at taken
      · cases taken
        rfl
      · cases taken
  | reading records =>
    cases records with
    | nil =>
      simp only [state] at taken ⊢
      cases taken
      rfl
    | cons raw rest =>
      simp only [state] at taken ⊢
      split at taken
      · cases taken
        rfl
      · cases taken
        exact world_read before raw rest
  | handing words rest =>
    cases words with
    | nil =>
      simp only [state] at taken ⊢
      cases taken
      rfl
    | cons word words =>
      simp only [state] at taken ⊢
      exact world_hand taken
  | closing =>
    simp only [state] at taken ⊢
    cases taken
    exact world_close before
  | finished =>
    simp only [state] at taken
    cases taken
  | panicked =>
    simp only [state] at taken
    cases taken

theorem sourceCall?_of_halted (halted : before.halted = true) :
    ∀ call, before.sourceCall? action = some call → call = .close := by
  intro call asked
  cases action <;> try cases asked
  unfold sourceCall? at asked
  simp only [halted, ↓reduceIte] at asked
  split at asked <;> cases asked
  rfl

theorem sourceCall?_eq_close :
    before.sourceCall? action = some .close ↔
      action = .dispatch ∧ before.dispatcher = .closing := by
  cases action with
  | dispatch =>
    simp only [sourceCall?]
    cases before.dispatcher <;> simp
  | request | heed | supervise | take | tick | wake => simp [sourceCall?]

end Config

namespace History

def calls (history : History σ) : List SourceCall :=
  history.filterMap fun step => step.1.sourceCall? step.2

theorem calls_concat (history : History σ) (config : Config σ) (action : Config.Action) :
    calls (history ++ [(config, action)]) =
      calls history ++ (config.sourceCall? action).toList := by
  simp only [calls, List.filterMap_append]
  cases call : config.sourceCall? action <;> simp [call]

end History

end WordTally.Pipeline
