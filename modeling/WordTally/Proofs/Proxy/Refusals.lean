import WordTally.Proofs.Pipeline.Retrying
import WordTally.Proofs.Proxy.Consuming

set_option autoImplicit false

namespace WordTally

namespace Http.Status

theorem isTransient_iff (status : Status) :
    status.isTransient = true ↔
      (500 ≤ status.code ∧ status.code < 600) ∨ status.code = 408 ∨ status.code = 429 := by
  simp [isTransient, isServerError, or_assoc]

end Http.Status

namespace Proxy

open Http Http.Network Pipeline

/-- What is asked of a proxy, once it is known to be there. -/
inductive Dialogue where
  | subscribe (proxy : Proxy) (group name topic : String)
  | poll (consumer : Consumer)
  | close (consumer : Consumer)
  | publish (topic : Topic) (updates : List Update)

inductive Failure where
  | source (error : SourceError)
  | sink (error : SinkError)
  deriving DecidableEq, Repr

namespace Failure

def isTransient : Failure → Bool
  | .source error => error.isTransient
  | .sink error => error.isRetryable

/-- A run that receives the failure does not try again what has failed: the source is only closed,
or the shard makes no publish call any more. -/
def IsLast : Failure → Prop
  | .source error => ∀ (σ : Type) (world : World σ) (config last : Config σ) (later : History σ)
      (attempt : Nat), Run world (config.received attempt (.failed error)) later last →
      ∀ call ∈ History.calls later, call = .close
  | .sink error => ∀ (σ : Type) (world : World σ) (config last : Config σ) (later : History σ)
      (shard : Nat) (worker : Worker) (attempt : Nat) (cause : FlushCause),
      config.workers[shard]? = some worker →
      Run world (config.settle shard worker attempt cause (some error)) later last →
      last.callsOf shard = config.callsOf shard

theorem isLast_of_lasting {failure : Failure} (lasting : failure.isTransient = false) :
    failure.IsLast := by
  cases failure with
  | source error =>
    intro σ world config last later attempt run
    exact run.calls_of_lasting lasting
  | sink error =>
    intro σ world config last later shard worker attempt cause found run
    exact run.callsOf_of_lasting lasting found

end Failure

namespace Dialogue

/-- Holds the dialogue, and says how it failed if it did. -/
def failure? : Dialogue → Talk (Option Failure)
  | .subscribe proxy group name topic => do
    match ← proxy.subscribe group name topic with
    | .ok _ => return none
    | .error error => return some (.source error)
  | .poll consumer => do
    match ← consumer.poll with
    | .failed error => return some (.source error)
    | _ => return none
  | .close consumer => do
    let (error, _) ← consumer.close
    return error.map .source
  | .publish topic updates => do
    let error ← topic.publish updates
    return error.map .sink

/-- Whether the body of an answer is read to its end before the status is looked at. -/
def readsFirst : Dialogue → Bool
  | .subscribe .. | .close _ => false
  | .poll _ | .publish .. => true

end Dialogue

def Topic.request (topic : Topic) (updates : List Update) : Request :=
  ⟨.post, topic.url, some avroMediaType, some mediaType,
    some (produceBody RecordSchema.wordCount.text topic.schemaId updates)⟩

/-- A dialogue that gets an answer which is no success, and is not as good as one; with the requests
that arrive up to this answer. -/
inductive Refused (network : Network) : Dialogue → List Request → Response → Prop where
  | creation (proxy : Proxy) (group name topic : String) (response : Response)
      (replies : network.Replies 0 (proxy.creationRequest group name) response)
      (unwelcome : response.status.isSuccess = false)
      (new : response.status.code ≠ 409) :
      Refused network (.subscribe proxy group name topic)
        [(proxy.creationRequest group name).bare] response
  | subscription (proxy : Proxy) (group name topic : String) (created response : Response)
      (url : Url)
      (creation : network.Replies 0 (proxy.creationRequest group name) created)
      (located : proxy.Locates group name url created)
      (replies : network.Replies 1 (subscriptionRequest url topic) response)
      (unwelcome : response.status.isSuccess = false) :
      Refused network (.subscribe proxy group name topic)
        [(proxy.creationRequest group name).bare, (subscriptionRequest url topic).bare] response
  | poll (consumer : Consumer) (response : Response)
      (open_ : consumer.closed = false)
      (replies : network.Replies 0 (Consumer.Call.poll.request consumer.url) response)
      (unwelcome : response.status.isSuccess = false) :
      Refused network (.poll consumer) [(Consumer.Call.poll.request consumer.url).bare] response
  | removal (consumer : Consumer) (response : Response)
      (open_ : consumer.closed = false)
      (replies : network.Replies 0 (Consumer.Call.close.request consumer.url) response)
      (unwelcome : response.status.isSuccess = false)
      (there : response.status.code ≠ 404) :
      Refused network (.close consumer) [(Consumer.Call.close.request consumer.url).bare] response
  | publication (topic : Topic) (updates : List Update) (response : Response)
      (some_ : updates ≠ [])
      (replies : network.Replies 0 (topic.request updates) response)
      (unwelcome : response.status.isSuccess = false) :
      Refused network (.publish topic updates) [(topic.request updates).bare] response

section Answers

variable {proxy : Proxy} {group name topic : String} {network : Network} {response : Response}
  {url : Url} {consumer : Consumer}

theorem isTransient_statusError (status : Status) (body : Json.Octets) :
    (statusError status body).isTransient = status.isTransient := by
  unfold statusError
  split
  · rename_i passing
    exact passing.symm
  · rename_i lasting
    exact (eq_false_of_ne_true lasting).symm

theorem run_create_of_refused
    (replies : network.Replies 0 (proxy.creationRequest group name) response)
    (unwelcome : response.status.isSuccess = false) (new : response.status.code ≠ 409) :
    (proxy.create group name).run network =
      (.error (statusError response.status response.bodyOrEmpty),
        network.heard (proxy.creationRequest group name)) := by
  unfold create
  rw [run_bind, run_ask_of_replies replies]
  dsimp only
  unfold instanceUrl
  rw [if_neg (by simp [unwelcome]), if_neg new]
  rfl

theorem run_create_of_located
    (replies : network.Replies 0 (proxy.creationRequest group name) response)
    (located : proxy.Locates group name url response) :
    ∃ after, Logs (network.heard (proxy.creationRequest group name)) after ∧
      (proxy.create group name).run network = (.ok url, after) := by
  unfold create
  rw [run_bind, run_ask_of_replies replies]
  dsimp only
  unfold instanceUrl
  rcases located with ⟨success, octets, uri, body, base, parsed⟩ | ⟨conflict, rfl⟩
  · rw [if_pos success]
    simp only [body, base, parsed]
    exact ⟨_, .refl _, rfl⟩
  · rw [if_neg (by simp [not_success_of_conflict conflict]), if_pos conflict]
    exact ⟨_, logs_say _ _, rfl⟩

theorem run_attach_of_refused (replies : network.Replies 0 (subscriptionRequest url topic) response)
    (unwelcome : response.status.isSuccess = false) :
    (proxy.attach topic url).run network =
      (.error (statusError response.status response.bodyOrEmpty),
        network.heard (subscriptionRequest url topic)) := by
  unfold attach
  rw [run_bind, run_ask_of_replies replies]
  dsimp only
  rw [if_neg (by simp [unwelcome])]
  rfl

theorem run_poll_of_refused (open_ : consumer.closed = false)
    (replies : network.Replies 0 (Consumer.Call.poll.request consumer.url) response)
    (unwelcome : response.status.isSuccess = false) :
    ∃ error, (error.isTransient = true ↔
        response.status.isTransient = true ∨ ∃ broken, response.body = .error broken) ∧
      consumer.poll.run network =
        (.failed error, network.heard (Consumer.Call.poll.request consumer.url)) := by
  have sent := run_send_of_replies replies
  unfold Consumer.Call.request at sent ⊢
  dsimp only at sent ⊢
  unfold Consumer.poll
  rw [if_neg (by simp [open_]), run_bind, sent]
  dsimp only [Consumer.delivered]
  cases body : response.body with
  | error broken => exact ⟨unavailable broken, by simp [unavailable, SourceError.isTransient], rfl⟩
  | ok octets =>
    refine ⟨statusError response.status octets, by simp [isTransient_statusError], ?_⟩
    simp only [unwelcome, Bool.false_eq_true, if_false]
    rfl

theorem run_close_of_refused (open_ : consumer.closed = false)
    (replies : network.Replies 0 (Consumer.Call.close.request consumer.url) response)
    (unwelcome : response.status.isSuccess = false) (there : response.status.code ≠ 404) :
    consumer.close.run network =
      ((some (statusError response.status response.bodyOrEmpty), { consumer with closed := true }),
        network.heard (Consumer.Call.close.request consumer.url)) := by
  have asked := run_ask_of_replies replies
  unfold Consumer.Call.request at asked ⊢
  dsimp only at asked ⊢
  unfold Consumer.close
  rw [if_neg (by simp [open_]), run_bind, asked]
  dsimp only
  rw [if_neg (by simp [unwelcome, there])]
  rfl

theorem run_publish_of_refused {topic : Topic} {updates : List Update} (some_ : updates ≠ [])
    (replies : network.Replies 0 (topic.request updates) response)
    (unwelcome : response.status.isSuccess = false) :
    ∃ error, (error.isRetryable = true ↔
        response.status.isTransient = true ∨ ∃ broken, response.body = .error broken) ∧
      (topic.publish updates).run network =
        (some error, network.heard (topic.request updates)) := by
  have asked := run_ask_of_replies replies
  unfold Topic.request at asked ⊢
  unfold Topic.publish
  rw [if_neg (by simp [some_])]
  dsimp only
  rw [run_bind, asked]
  dsimp only [Topic.settle]
  cases body : response.body with
  | error broken => exact ⟨.transient broken.message, by simp [SinkError.isRetryable], rfl⟩
  | ok octets =>
    simp only [unwelcome, Bool.not_false, if_true]
    refine ⟨_, ?_, rfl⟩
    cases passing : response.status.isTransient <;> simp [SinkError.isRetryable]

end Answers

section Dialogues

variable {network : Network} {dialogue : Dialogue} {sent : List Request} {response : Response}

/-- How a refused dialogue fails, and what has arrived until then. -/
theorem run_failure?_of_refused (refused : Refused network dialogue sent response) :
    ∃ failure after, dialogue.failure?.run network = (some failure, after) ∧
      after.requests = network.requests ++ sent ∧
      (failure.isTransient = true ↔ response.status.isTransient = true ∨
        dialogue.readsFirst = true ∧ ∃ broken, response.body = .error broken) := by
  cases refused with
  | creation proxy group name topic _ replies unwelcome new =>
    refine ⟨.source (statusError response.status response.bodyOrEmpty),
      network.heard (proxy.creationRequest group name), ?_, rfl, ?_⟩
    · unfold Dialogue.failure?
      rw [run_bind, subscribe_eq, run_bind, run_create_of_refused replies unwelcome new]
      rfl
    · simp [Failure.isTransient, isTransient_statusError, Dialogue.readsFirst]
  | subscription proxy group name topic created _ url creation located replies unwelcome =>
    obtain ⟨middle, logs, ran⟩ := run_create_of_located creation located
    -- The creation has used up its answer, so the refusal is the next one for the attachment.
    have attached : (proxy.attach topic url).run middle = _ :=
      run_attach_of_refused ((replies_of_heard logs).mpr replies) unwelcome
    refine ⟨.source (statusError response.status response.bodyOrEmpty),
      middle.heard (subscriptionRequest url topic), ?_, ?_, ?_⟩
    · unfold Dialogue.failure?
      rw [run_bind, subscribe_eq, run_bind, ran]
      dsimp only [attachTo]
      rw [attached]
      rfl
    · change middle.requests ++ [_] = _
      rw [logs.requests]
      exact List.append_assoc _ _ _
    · simp [Failure.isTransient, isTransient_statusError, Dialogue.readsFirst]
  | poll consumer _ open_ replies unwelcome =>
    obtain ⟨error, passing, ran⟩ := run_poll_of_refused open_ replies unwelcome
    refine ⟨.source error, network.heard (Consumer.Call.poll.request consumer.url), ?_, rfl, ?_⟩
    · unfold Dialogue.failure?
      rw [run_bind, ran]
      rfl
    · simpa [Failure.isTransient, Dialogue.readsFirst] using passing
  | removal consumer _ open_ replies unwelcome there =>
    refine ⟨.source (statusError response.status response.bodyOrEmpty),
      network.heard (Consumer.Call.close.request consumer.url), ?_, rfl, ?_⟩
    · unfold Dialogue.failure?
      rw [run_bind, run_close_of_refused open_ replies unwelcome there]
      rfl
    · simp [Failure.isTransient, isTransient_statusError, Dialogue.readsFirst]
  | publication topic updates _ some_ replies unwelcome =>
    obtain ⟨error, passing, ran⟩ := run_publish_of_refused some_ replies unwelcome
    refine ⟨.sink error, network.heard (topic.request updates), ?_, rfl, ?_⟩
    · unfold Dialogue.failure?
      rw [run_bind, ran]
      rfl
    · simpa [Failure.isTransient, Dialogue.readsFirst] using passing

/-- Every dialogue that meets an answer which is no success fails, without sending anything more.
The failure may pass if the status says so, and otherwise only where a broken body is noticed before
the status. A failure that cannot pass is the last one. -/
theorem transient_iff_of_refused (refused : Refused network dialogue sent response) :
    let ended := dialogue.failure?.run network
    ended.2.requests = network.requests ++ sent ∧
      ∃ failure, ended.1 = some failure ∧
        (failure.isTransient = true ↔
          (500 ≤ response.status.code ∧ response.status.code < 600) ∨
            response.status.code = 408 ∨ response.status.code = 429 ∨
            (dialogue.readsFirst = true ∧ ∃ broken, response.body = .error broken)) ∧
        (failure.isTransient = false → failure.IsLast) := by
  intro ended
  obtain ⟨failure, after, ran, requests, passing⟩ := run_failure?_of_refused refused
  have here : ended = (some failure, after) := ran
  rw [here]
  refine ⟨requests, failure, rfl, ?_, Failure.isLast_of_lasting⟩
  rw [passing, Status.isTransient_iff]
  simp only [or_assoc]

end Dialogues

def curt : Network := { flaky with answers := [⟨.truncate ⟨403⟩, none⟩] }

def known : Consumer := ⟨flakyProxy.base.join ["consumers", "words", "instances", "one"], 0, false⟩

def forbidden (call : Consumer.Call) : Response :=
  ⟨⟨403⟩, .error (.brokenBody (call.request known.url).bare.url)⟩

/-- The same answer counts as one that may pass when it is an answer to a poll, and as a last one
when the consumer is to be removed. -/
theorem curt_told_apart :
    (∃ failure, ((Dialogue.poll known).failure?.run curt).1 = some failure ∧
        failure.isTransient = true) ∧
      ∃ failure, ((Dialogue.close known).failure?.run curt).1 = some failure ∧
        failure.isTransient = false ∧ failure.IsLast := by
  have polled : Refused curt (.poll known) _ (forbidden .poll) :=
    .poll known _ rfl ⟨by decide +kernel, rfl⟩ (by decide)
  have removed : Refused curt (.close known) _ (forbidden .close) :=
    .removal known _ rfl ⟨by decide +kernel, rfl⟩ (by decide) (by decide)
  obtain ⟨_, first, failed, passing, _⟩ := transient_iff_of_refused polled
  obtain ⟨_, second, failedToo, lasting, last⟩ := transient_iff_of_refused removed
  have stays : second.isTransient = false := by
    refine eq_false_of_ne_true fun passes => ?_
    have absent := lasting.mp passes
    simp [forbidden, Dialogue.readsFirst] at absent
  refine ⟨⟨first, failed, passing.mpr ?_⟩, second, failedToo, stays, last stays⟩
  exact .inr (.inr (.inr ⟨rfl, _, rfl⟩))

end Proxy

end WordTally
