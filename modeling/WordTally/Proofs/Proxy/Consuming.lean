import WordTally.Proofs.Http.Traffic

set_option autoImplicit false

namespace WordTally.Proxy

open Http Http.Network

variable {proxy : Proxy} {group name topic : String} {network after : Network}

section Opening

variable (proxy : Proxy) (group name topic : String) (network : Network)

/-- The ends of a subscription, each with the requests that arrive for it: one to create the
consumer, and one to subscribe it only if the answer to the first says where the consumer is. -/
inductive Opening : List Request → Except SourceError Consumer → Prop where
  | unsent (error : SourceError)
      (away : network.admits (proxy.creationRequest group name).bare.url = false) :
      Opening [] (.error error)
  | homeless (error : SourceError)
      (there : network.admits (proxy.creationRequest group name).bare.url = true)
      (unmade : ∀ response url, network.Replies 0 (proxy.creationRequest group name) response →
        ¬ proxy.Locates group name url response) :
      Opening [(proxy.creationRequest group name).bare] (.error error)
  | unreached (error : SourceError) (response : Response) (url : Url)
      (created : network.Replies 0 (proxy.creationRequest group name) response)
      (located : proxy.Locates group name url response)
      (away : network.admits (subscriptionRequest url topic).bare.url = false) :
      Opening [(proxy.creationRequest group name).bare] (.error error)
  | refused (error : SourceError) (response : Response) (url : Url)
      (created : network.Replies 0 (proxy.creationRequest group name) response)
      (located : proxy.Locates group name url response)
      (there : network.admits (subscriptionRequest url topic).bare.url = true)
      (unwelcome : ∀ other, network.Replies 1 (subscriptionRequest url topic) other →
        other.status.isSuccess = false) :
      Opening [(proxy.creationRequest group name).bare, (subscriptionRequest url topic).bare]
        (.error error)
  | opened (response other : Response) (url : Url)
      (created : network.Replies 0 (proxy.creationRequest group name) response)
      (located : proxy.Locates group name url response)
      (subscribed : network.Replies 1 (subscriptionRequest url topic) other)
      (welcome : other.status.isSuccess = true) :
      Opening [(proxy.creationRequest group name).bare, (subscriptionRequest url topic).bare]
        (.ok ⟨url, proxy.idleMillis, false⟩)

end Opening

theorem run_subscribe (proxy : Proxy) (group name topic : String) (network : Network) :
    ∃ sent, ((proxy.subscribe group name topic).run network).2.requests =
        network.requests ++ sent ∧
      Opening proxy group name topic network sent
        ((proxy.subscribe group name topic).run network).1 ∧
      ((proxy.subscribe group name topic).run network).2.httpPeers = network.httpPeers := by
  rw [subscribe_eq, run_bind]
  have created := settles_create proxy group name network
  generalize (proxy.create group name).run network = ended at created
  cases created with
  | unsent error away => exact ⟨[], (List.append_nil _).symm, .unsent error away, rfl⟩
  | unfit error after there none logs =>
    exact ⟨[_], logs.requests, .homeless error there none, logs.peers⟩
  | made response url middle replies located logs =>
    have attached := settles_attach proxy topic url middle
    have same : middle.admits = network.admits := by
      funext other
      exact admits_of_peers logs.peers
    change ∃ sent, ((proxy.attach topic url).run middle).2.requests = network.requests ++ sent ∧
      Opening proxy group name topic network sent ((proxy.attach topic url).run middle).1 ∧
      ((proxy.attach topic url).run middle).2.httpPeers = network.httpPeers
    generalize (proxy.attach topic url).run middle = ended at attached
    cases attached with
    | unsent error away =>
      rw [same] at away
      exact ⟨[_], logs.requests, .unreached error response url replies located away, logs.peers⟩
    | unfit error after there none further =>
      rw [same] at there
      refine ⟨[_, _], ?_, .refused error response url replies located there fun other again => ?_,
        further.peers.trans logs.peers⟩
      · rw [further.requests]
        change middle.requests ++ [_] = _
        rw [logs.requests]
        exact List.append_assoc _ _ _
      · have before := (replies_of_heard logs).mpr again
        exact eq_false_of_ne_true fun success => none other _ before ⟨success, rfl⟩
    | made other consumer after again welcome further =>
      obtain ⟨success, rfl⟩ := welcome
      refine ⟨[_, _], ?_, .opened response other url replies located
        ((replies_of_heard logs).mp again) success, further.peers.trans logs.peers⟩
      rw [further.requests]
      change middle.requests ++ [_] = _
      rw [logs.requests]
      exact List.append_assoc _ _ _

namespace Consumer

inductive Call where
  | poll
  | close
  deriving DecidableEq, Repr

inductive Returned where
  | poll (answer : Poll)
  | close (error : Option SourceError)

def Call.request (consumer : Url) : Call → Request
  | .poll => ⟨.get, consumer.join ["records"], none, some avroMediaType, none⟩
  | .close => ⟨.delete, consumer, some mediaType, none, none⟩

/-- What a call on a closed consumer returns. -/
def Call.settled : Call → Returned
  | .poll => .poll .endOfStream
  | .close => .close none

def perform (consumer : Consumer) : Call → Talk (Returned × Consumer)
  | .poll => do return (.poll (← consumer.poll), consumer)
  | .close => do
    let (error, closed) ← consumer.close
    return (.close error, closed)

/-- One call of a session, what it returned and the requests that arrived meanwhile. -/
structure Turn where
  call : Call
  returned : Returned
  sent : List Request

def serve (consumer : Consumer) : List Call → Talk (List Turn × Consumer)
  | [] => return ([], consumer)
  | call :: rest => do
    let before ← get
    let (returned, next) ← consumer.perform call
    let after ← get
    let (turns, last) ← next.serve rest
    return (⟨call, returned, after.requests.drop before.requests.length⟩ :: turns, last)

variable {consumer : Consumer} {call : Call}

theorem run_perform_of_closed (closed : consumer.closed = true) (call : Call) (network : Network) :
    (consumer.perform call).run network = ((call.settled, consumer), network) := by
  cases call with
  | poll =>
    unfold perform poll
    rw [if_pos closed]
    rfl
  | close =>
    unfold perform close
    rw [if_pos closed]
    rfl

theorem run_poll_of_open (open_ : consumer.closed = false)
    (there : network.admits (Call.poll.request consumer.url).bare.url = true) :
    ∃ answer after, Logs (network.heard (Call.poll.request consumer.url)) after ∧
      consumer.poll.run network = (answer, after) := by
  have stays : ¬ consumer.closed = true := by simp [open_]
  unfold poll
  rw [if_neg stays, run_bind]
  rcases run_send (Call.poll.request consumer.url) network with ⟨_, sent⟩ | ⟨away, _⟩
  · unfold Call.request at sent ⊢
    dsimp only at sent ⊢
    rw [sent]
    dsimp only
    split
    · rename_i response exchange
      split
      · rename_i records delivery
        split
        · exact ⟨_, _, logs_say _ _, rfl⟩
        · exact ⟨_, _, .refl _, rfl⟩
      · exact ⟨_, _, .refl _, rfl⟩
    · exact ⟨_, _, .refl _, rfl⟩
    · exact ⟨_, _, logs_say _ _, rfl⟩
  · rw [there] at away
    cases away

/-- A consumer counts as closed as soon as its removal was tried. -/
theorem run_close_of_open (open_ : consumer.closed = false)
    (there : network.admits (Call.close.request consumer.url).bare.url = true) :
    ∃ error after, Logs (network.heard (Call.close.request consumer.url)) after ∧
      consumer.close.run network = ((error, { consumer with closed := true }), after) := by
  have stays : ¬ consumer.closed = true := by simp [open_]
  unfold close
  rw [if_neg stays, run_bind]
  have asked := run_ask (Call.close.request consumer.url) network
  unfold Call.request at asked there ⊢
  dsimp only at asked there ⊢
  generalize (ask _).run network = ended at asked
  cases asked with
  | unsent error away =>
    rw [there] at away
    cases away
  | unfit error after _ none logs => exact ⟨_, _, logs, rfl⟩
  | made response value after replies same logs =>
    dsimp only
    split
    · exact ⟨_, _, logs.trans (logs_say _ _), rfl⟩
    · exact ⟨_, _, logs, rfl⟩

theorem run_perform_of_open (open_ : consumer.closed = false)
    (there : network.admits (call.request consumer.url).bare.url = true) :
    ∃ returned after, Logs (network.heard (call.request consumer.url)) after ∧
      (consumer.perform call).run network =
        ((returned, { consumer with closed := call == .close }), after) := by
  cases call with
  | poll =>
    obtain ⟨answer, after, logs, ran⟩ := run_poll_of_open open_ there
    refine ⟨.poll answer, after, logs, ?_⟩
    unfold perform
    rw [run_bind, ran]
    obtain ⟨url, idleMillis, closed⟩ := consumer
    cases open_
    rfl
  | close =>
    obtain ⟨error, after, logs, ran⟩ := run_close_of_open open_ there
    refine ⟨.close error, after, logs, ?_⟩
    unfold perform
    rw [run_bind, ran]
    rfl

/-- What a call of a session has to be, given whether the consumer was closed before it. -/
structure Turn.Fits (turn : Turn) (consumer : Url) (closed : Prop) : Prop where
  settled : closed → turn.returned = turn.call.settled ∧ turn.sent = []
  asked : ¬ closed → turn.sent = [(turn.call.request consumer).bare]

/-- All requests to a consumer arrive, if one does. -/
def Reached (consumer : Url) (network : Network) : Prop :=
  ∀ call : Call, network.admits (call.request consumer).bare.url = true

theorem reached_of_admits {url : Url} {names : List String}
    (there : network.admits (url.join names).withoutCredentials = true) : Reached url network := by
  intro call
  have same : network.admits (call.request url).bare.url =
      network.admits (url.join names).withoutCredentials := by
    cases call with
    | poll => exact admits_congr (by simp [Call.request]) (by simp [Call.request])
    | close => exact admits_congr (by simp [Call.request]) (by simp [Call.request])
  rw [same]
  exact there

theorem Reached.of_peers {url : Url} (reached : Reached url network)
    (same : after.httpPeers = network.httpPeers) : Reached url after := by
  intro call
  rw [admits_of_peers same]
  exact reached call

/-- One call of a session, and how it leaves the consumer. -/
theorem run_perform (consumer : Consumer) (call : Call) (network : Network)
    (reached : consumer.closed = false → Reached consumer.url network) :
    ∃ returned next after sent,
      (consumer.perform call).run network = ((returned, next), after) ∧
      after.requests = network.requests ++ sent ∧ after.httpPeers = network.httpPeers ∧
      (⟨call, returned, sent⟩ : Turn).Fits consumer.url (consumer.closed = true) ∧
      next.url = consumer.url ∧ (next.closed = true ↔ consumer.closed = true ∨ .close = call) := by
  cases state : consumer.closed with
  | true =>
    refine ⟨_, _, _, [], run_perform_of_closed state call network, (List.append_nil _).symm, rfl,
      ⟨fun _ => ⟨rfl, rfl⟩, fun open_ => absurd rfl open_⟩, rfl, ?_⟩
    simp [state]
  | false =>
    obtain ⟨returned, after, logs, performed⟩ := run_perform_of_open state (reached state call)
    refine ⟨_, _, _, [(call.request consumer.url).bare], performed, logs.requests, logs.peers,
      ⟨fun closed => (Bool.false_ne_true closed).elim, fun _ => rfl⟩, rfl, ?_⟩
    cases call <;> simp

theorem run_serve_cons (consumer : Consumer) (call : Call) (rest : List Call) (network : Network) :
    (consumer.serve (call :: rest)).run network =
      let performed := (consumer.perform call).run network
      let served := (performed.1.2.serve rest).run performed.2
      ((⟨call, performed.1.1, performed.2.requests.drop network.requests.length⟩ :: served.1.1,
        served.1.2), served.2) := rfl

/-- All calls of a session are as they have to be, and what arrives meanwhile is theirs. -/
theorem run_serve (consumer : Consumer) (calls : List Call) (network : Network)
    (reached : consumer.closed = false → Reached consumer.url network) :
    let served := (consumer.serve calls).run network
    served.1.1.map Turn.call = calls ∧
      served.2.requests = network.requests ++ served.1.1.flatMap Turn.sent ∧
      ∀ (index : Nat) (turn : Turn), served.1.1[index]? = some turn →
        turn.Fits consumer.url (consumer.closed = true ∨ .close ∈ calls.take index) := by
  induction calls generalizing consumer network with
  | nil => exact ⟨rfl, (List.append_nil _).symm, nofun⟩
  | cons call rest ih =>
    obtain ⟨returned, next, after, sent, performed, requests, peers, fits, place, closed⟩ :=
      run_perform consumer call network reached
    have still : next.closed = false → Reached next.url after := by
      intro open_
      have before : consumer.closed = false :=
        eq_false_of_ne_true fun past => absurd (closed.mpr (.inl past)) (by simp [open_])
      rw [place]
      exact (reached before).of_peers peers
    obtain ⟨names, arrived, turns⟩ := ih next after still
    -- What the log has grown by is what was sent.
    have grown : after.requests.drop network.requests.length = sent := by
      rw [requests, List.drop_left]
    have ran : (consumer.serve (call :: rest)).run network =
        ((⟨call, returned, sent⟩ :: ((next.serve rest).run after).1.1,
          ((next.serve rest).run after).1.2), ((next.serve rest).run after).2) := by
      rw [run_serve_cons, performed]
      dsimp only
      rw [grown]
    rw [ran]
    refine ⟨congrArg (call :: ·) names, ?_, ?_⟩
    · rw [arrived, requests, List.flatMap_cons, List.append_assoc]
    · intro index turn found
      cases index with
      | zero =>
        cases found
        simpa using fits
      | succ index =>
        have fits := turns index turn found
        rw [place, closed] at fits
        simpa [or_assoc] using fits

end Consumer

/-- The life of a consumer. The subscription comes to one of its ends, and only a good answer to the
creation lets it send its second request. Each call before the first one that closes sends one
request to the consumer that was found, and so does that one; later calls send nothing and find the
consumer closed, even if it could not be removed. -/
theorem subscribe_session (proxy : Proxy) (group name topic : String) (network : Network)
    (calls : List Consumer.Call) :
    let subscribed := (proxy.subscribe group name topic).run network
    (∃ sent, subscribed.2.requests = network.requests ++ sent ∧
        Opening proxy group name topic network sent subscribed.1) ∧
      ∀ consumer, subscribed.1 = .ok consumer →
        let served := (consumer.serve calls).run subscribed.2
        served.1.1.map Consumer.Turn.call = calls ∧
          served.2.requests = subscribed.2.requests ++ served.1.1.flatMap Consumer.Turn.sent ∧
          ∀ (index : Nat) (turn : Consumer.Turn), served.1.1[index]? = some turn →
            turn.Fits consumer.url (.close ∈ calls.take index) := by
  intro subscribed
  obtain ⟨sent, requests, opening, peers⟩ := run_subscribe proxy group name topic network
  refine ⟨⟨sent, requests, opening⟩, fun consumer same => ?_⟩
  change subscribed.1 = .ok consumer at same
  change Opening proxy group name topic network sent subscribed.1 at opening
  rw [same] at opening
  cases opening with
  | opened response other url created located heard welcome =>
    have reached : Consumer.Reached url subscribed.2 :=
      (Consumer.reached_of_admits heard.1).of_peers peers
    have served := Consumer.run_serve ⟨url, proxy.idleMillis, false⟩ calls subscribed.2
      fun _ => reached
    simpa using served

/-- A proxy that knows the consumer already, breaks off its answer to a poll, and has failed when it
is asked to remove the consumer. -/
def flaky : Network where
  httpPeers := [("proxy", 8082)]
  tcpPeers := []
  answers := [⟨.respond ⟨409⟩ [], none⟩, ⟨.respond ⟨204⟩ [], none⟩, ⟨.truncate ⟨200⟩, none⟩,
    ⟨.respond ⟨500⟩ [], none⟩]
  requests := []
  files := []
  log := []

def flakyProxy : Proxy :=
  ⟨⟨"http", some ⟨"", none, .domain "proxy", some 8082⟩, .segments [""], none, none⟩, 0⟩

theorem flaky_session :
    let subscribed := (flakyProxy.subscribe "words" "one" "lines").run flaky
    ∃ consumer first second third fourth last, subscribed.1 = .ok consumer ∧
      ((consumer.serve [.poll, .close, .poll, .close]).run subscribed.2).1 =
        ([first, second, third, fourth], last) ∧
      first.sent = [(Consumer.Call.poll.request consumer.url).bare] ∧
      second.sent = [(Consumer.Call.close.request consumer.url).bare] ∧
      (third.returned = .poll .endOfStream ∧ third.sent = []) ∧
      (fourth.returned = .close none ∧ fourth.sent = []) := by
  intro subscribed
  have opens : subscribed.1.toOption.isSome = true := by decide +kernel
  cases same : subscribed.1 with
  | error error =>
    rw [same] at opens
    cases opens
  | ok consumer =>
    obtain ⟨names, _, turns⟩ := (subscribe_session flakyProxy "words" "one" "lines" flaky
      [.poll, .close, .poll, .close]).2 consumer same
    change ((consumer.serve [.poll, .close, .poll, .close]).run subscribed.2).1.1.map _ = _ at names
    change ∀ (index : Nat) (turn : Consumer.Turn),
      ((consumer.serve [.poll, .close, .poll, .close]).run subscribed.2).1.1[index]? = some turn →
        turn.Fits consumer.url _ at turns
    refine ⟨consumer, ?_⟩
    generalize ((consumer.serve [.poll, .close, .poll, .close]).run subscribed.2).1 = served
      at names turns ⊢
    obtain ⟨all, last⟩ := served
    obtain ⟨first, _, rfl, polled, names⟩ := List.map_eq_cons_iff.mp names
    obtain ⟨second, _, rfl, closed, names⟩ := List.map_eq_cons_iff.mp names
    obtain ⟨third, _, rfl, polledLate, names⟩ := List.map_eq_cons_iff.mp names
    obtain ⟨fourth, _, rfl, closedAgain, names⟩ := List.map_eq_cons_iff.mp names
    cases List.map_eq_nil_iff.mp names
    refine ⟨first, second, third, fourth, last, rfl, rfl, ?_, ?_, ?_, ?_⟩
    · rw [(turns 0 first rfl).asked (by decide), polled]
    · rw [(turns 1 second rfl).asked (by decide), closed]
    · have settled := (turns 2 third rfl).settled (by decide)
      rw [polledLate] at settled
      exact settled
    · have settled := (turns 3 fourth rfl).settled (by decide)
      rw [closedAgain] at settled
      exact settled

end WordTally.Proxy
