import WordTally.Probe
import WordTally.Proofs.Http.Arrival
import WordTally.Proxy.Client
import WordTally.Registry

set_option autoImplicit false

namespace WordTally

namespace Http.Network

variable {before middle after network : Network} {request : Request} {ε ε' α β : Type}

def Answered (request : Request) (answer : Answer) (kind : Response → Prop) : Prop :=
  ∃ response, Answer.exchange request.bare.url answer = .answered response ∧ kind response

structure Silent (before after : Network) : Prop where
  requests : after.requests = before.requests
  answers : after.answers = before.answers
  tcpPeers : after.tcpPeers = before.tcpPeers

/-- One request has arrived, and has taken an answer. -/
structure Hears (request : Request) (before after : Network) : Prop where
  requests : after.requests = before.requests ++ [request.bare]
  answers : after.answers = before.answers.tail

theorem Silent.refl (network : Network) : Silent network network := ⟨rfl, rfl, rfl⟩

theorem Silent.trans (first : Silent before middle) (second : Silent middle after) :
    Silent before after :=
  ⟨second.requests.trans first.requests, second.answers.trans first.answers,
    second.tcpPeers.trans first.tcpPeers⟩

theorem Hears.silent (hears : Hears request before middle) (silent : Silent middle after) :
    Hears request before after :=
  ⟨silent.requests.trans hears.requests, silent.answers.trans hears.answers⟩

theorem hears_of_logs (logs : Logs (network.heard request) after) :
    Hears request network after := by
  obtain ⟨lines, rfl⟩ := logs
  exact ⟨rfl, rfl⟩

/-- A dialogue sends one request at most. It has a value only if the request was answered, and the
answer gives that value. -/
def Asks (dialogue : Talk (Except ε α)) (request : Request) (gives : Response → α → Prop) : Prop :=
  ∀ network,
    (Silent network (dialogue.run network).2 ∧ ∀ value, (dialogue.run network).1 ≠ .ok value) ∨
      Hears request network (dialogue.run network).2 ∧
        ∀ value, (dialogue.run network).1 = .ok value →
          Answered request (network.answer 0) fun response => gives response value

/-- A dialogue that settles in the ends of one request sends that request at most. -/
theorem asks_of_settles {dialogue : Talk (Except ε α)} {makes : Response → α → Prop}
    (settles : ∀ network, Settles request makes network (dialogue.run network)) :
    Asks dialogue request makes := by
  intro network
  have settled := settles network
  generalize dialogue.run network = ended at settled
  cases settled with
  | made response value after replies made logs =>
    refine .inr ⟨hears_of_logs logs, fun other same => ?_⟩
    cases same
    exact ⟨response, replies.2, made⟩
  | unfit error after there none logs => exact .inr ⟨hears_of_logs logs, nofun⟩
  | unsent error away => exact .inl ⟨.refl network, nofun⟩

theorem asks_ask (request : Request) :
    Asks (ask request) request fun response value => value = response :=
  asks_of_settles (run_ask request)

def Quietly (dialogue : Talk (Except ε α)) (gives : α → Prop) : Prop :=
  ∀ network, Silent network (dialogue.run network).2 ∧
    ∀ value, (dialogue.run network).1 = .ok value → gives value

theorem quietly_error (error : ε) (gives : α → Prop) :
    Quietly (pure (.error error) : Talk (Except ε α)) gives :=
  fun network => ⟨.refl network, nofun⟩

theorem quietly_ok {value : α} {gives : α → Prop} (given : gives value) :
    Quietly (pure (.ok value) : Talk (Except ε α)) gives := by
  intro network
  refine ⟨.refl network, fun other same => ?_⟩
  cases same
  exact given

theorem quietly_say {dialogue : Talk (Except ε α)} {gives : α → Prop} (line : LogLine)
    (quiet : Quietly dialogue gives) : Quietly (say line >>= fun _ => dialogue) gives := by
  intro network
  have said : Silent network ((say line).run network).2 := ⟨rfl, rfl, rfl⟩
  obtain ⟨silent, given⟩ := quiet ((say line).run network).2
  exact ⟨said.trans silent, given⟩

theorem Asks.bind {dialogue : Talk (Except ε α)} {next : Except ε α → Talk (Except ε' β)}
    {gives : Response → α → Prop} {makes : Response → β → Prop} (asks : Asks dialogue request gives)
    (fails : ∀ error, Quietly (next (.error error)) fun _ => False)
    (goesOn : ∀ response value, gives response value →
      Quietly (next (.ok value)) (makes response)) :
    Asks (dialogue >>= next) request makes := by
  intro network
  rw [run_bind]
  have asked := asks network
  cases result : (dialogue.run network).1 with
  | error error =>
    obtain ⟨silent, never⟩ := fails error (dialogue.run network).2
    rcases asked with ⟨nothing, -⟩ | ⟨hears, -⟩
    · exact .inl ⟨nothing.trans silent, never⟩
    · exact .inr ⟨hears.silent silent, fun value same => (never value same).elim⟩
  | ok value =>
    rcases asked with ⟨-, none⟩ | ⟨hears, given⟩
    · exact absurd result (none value)
    · obtain ⟨response, exchange, gives⟩ := given value result
      obtain ⟨silent, made⟩ := goesOn response value gives (dialogue.run network).2
      exact .inr ⟨hears.silent silent, fun other same => ⟨response, exchange, made other same⟩⟩

end Http.Network

open Http Http.Network

theorem Probe.connect_congr {network later : Network} (same : later.tcpPeers = network.tcpPeers)
    (broker : String) : connect later broker = connect network broker := by
  unfold connect
  rw [same]

theorem Probe.quietly_firstReachable (brokers : List String) (network : Network) :
    Silent network ((firstReachable brokers).run network).2 ∧
      ∀ found, ((firstReachable brokers).run network).1 = .ok found →
        found ∈ brokers ∧ connect network found = .ok () := by
  induction brokers generalizing network with
  | nil => exact ⟨.refl network, nofun⟩
  | cons broker rest ih =>
    unfold firstReachable
    rw [run_bind, run_get]
    dsimp only
    cases tried : connect network broker with
    | ok =>
      refine ⟨.refl network, fun found same => ?_⟩
      cases same
      exact ⟨List.mem_cons_self, tried⟩
    | error fault =>
      dsimp only
      rw [run_bind, run_bind]
      have said : Silent network
          ((say (.debug ("broker " ++ broker ++ " refused: " ++ fault.message))).run network).2 :=
        ⟨rfl, rfl, rfl⟩
      obtain ⟨silent, found⟩ := ih
        ((say (.debug ("broker " ++ broker ++ " refused: " ++ fault.message))).run network).2
      split
      · rename_i other result
        refine ⟨said.trans silent, fun value same => ?_⟩
        cases same
        obtain ⟨member, accepts⟩ := found _ result
        exact ⟨List.mem_cons_of_mem _ member, (connect_congr said.tcpPeers _).symm.trans accepts⟩
      · exact ⟨said.trans silent, nofun⟩

/-- The search for a broker sends nothing, and finds one that accepts connections. -/
theorem Probe.run_spec (brokers : List String) (network : Network) :
    Silent network ((Probe.run brokers).run network).2 ∧
      ∀ found, ((Probe.run brokers).run network).1 = .ok found →
        found ∈ brokers ∧ connect network found = .ok () := by
  have searched := quietly_firstReachable brokers network
  unfold Probe.run
  split
  · exact ⟨.refl network, nofun⟩
  · rw [run_bind]
    obtain ⟨silent, found⟩ := searched
    split
    · rename_i broker result
      refine ⟨silent.trans ⟨rfl, rfl, rfl⟩, fun other same => ?_⟩
      cases same
      exact found _ result
    · exact ⟨silent, nofun⟩

namespace Registry

def requestOf (registry : Registry) (method : Method) (names : List String) (body : Option Json) :
    Request :=
  ⟨method, registry.base.join names, body.map fun _ => mediaType, some mediaType, body⟩

theorem asks_request (registry : Registry) (method : Method) (names : List String)
    (body : Option Json) :
    Asks (registry.request method names body) (registry.requestOf method names body)
      fun response octets => expectSuccess response = .ok octets := by
  unfold request endpoint
  split
  · exact fun network => .inl ⟨.refl network, nofun⟩
  · rename_i url endpoint
    split at endpoint
    · cases endpoint
      refine (asks_ask _).bind (fun error => quietly_error _ _) ?_
      rintro _ response rfl network
      exact ⟨.refl network, fun octets same => same⟩
    · cases endpoint

/-- The registry is there if it answers with success and its answer can be read. -/
theorem asks_checkReachable (registry : Registry) :
    Asks registry.checkReachable (registry.requestOf .get ["subjects"] none)
      fun response _ => ∃ octets, expectSuccess response = .ok octets := by
  refine (asks_request registry .get ["subjects"] none).bind (fun error => quietly_error _ _) ?_
  exact fun response octets success => quietly_ok ⟨octets, success⟩

/-- A schema is registered if the answer, a success, holds an id. -/
theorem asks_register (registry : Registry) (subject schema : String) :
    Asks (registry.register subject schema)
      (registry.requestOf .post ["subjects", subject, "versions"]
        (some (.object [("schema", .string schema)])))
      fun response id => ∃ octets, expectSuccess response = .ok octets ∧
        registeredId octets = .ok id := by
  refine (asks_request registry _ _ _).bind (fun error => quietly_error _ _) ?_
  intro response octets success
  dsimp only
  split
  · exact quietly_error _ _
  · rename_i id read
    exact quietly_say _ (quietly_ok ⟨octets, success, read⟩)

end Registry

namespace Proxy

def topicsRequest (proxy : Proxy) : Request :=
  ⟨.get, proxy.base.join ["topics"], none, some mediaType, none⟩

def creationRequest (proxy : Proxy) (group name : String) : Request :=
  ⟨.post, proxy.base.join ["consumers", group], some mediaType, some mediaType,
    some (createBody name)⟩

def subscriptionRequest (consumer : Url) (topic : String) : Request :=
  ⟨.post, consumer.join ["subscription"], some mediaType, none, some (subscriptionBody topic)⟩

theorem asks_checkReachable (proxy : Proxy) :
    Asks proxy.checkReachable proxy.topicsRequest
      fun response _ => response.status.isSuccess = true := by
  refine (asks_ask _).bind (fun error => quietly_error _ _) ?_
  rintro _ response rfl
  dsimp only
  split
  · rename_i success
    exact quietly_ok success
  · exact quietly_error _ _

/-- An answer to the creation of a consumer says where it is: it is a success that holds a URL, or
it says that the consumer exists already. -/
def Locates (proxy : Proxy) (group name : String) (consumer : Url) (response : Response) : Prop :=
  (response.status.isSuccess = true ∧ ∃ octets uri, response.body = .ok octets ∧
      baseUri octets = .ok uri ∧ Url.parse uri = .ok consumer) ∨
    response.status.code = 409 ∧ consumer = proxy.base.join ["consumers", group, "instances", name]

theorem not_success_of_conflict {status : Status} (conflict : status.code = 409) :
    status.isSuccess = false := by
  simp [Status.isSuccess, conflict]

theorem reads_instanceUrl (proxy : Proxy) (group name : String) (response : Response)
    (network : Network) :
    Reads (fun url => proxy.Locates group name url response) network
      ((proxy.instanceUrl group name response).run network) := by
  unfold instanceUrl
  split
  · rename_i success
    have other : response.status.code ≠ 409 := by
      intro conflict
      rw [not_success_of_conflict conflict] at success
      cases success
    -- A success locates the consumer by its body alone.
    have unfit : (∀ octets uri url, response.body = .ok octets → baseUri octets = .ok uri →
        Url.parse uri ≠ .ok url) → ∀ url, ¬ proxy.Locates group name url response := by
      rintro none url (⟨_, octets, uri, body, base, parsed⟩ | ⟨conflict, _⟩)
      · exact none octets uri url body base parsed
      · exact other conflict
    split
    · rename_i error broken
      exact .unfit _ (unfit fun octets uri url body => by rw [broken] at body; cases body)
    · rename_i octets body
      split
      · rename_i fault misread
        refine .unfit _ (unfit fun octets' uri url same base => ?_)
        rw [body] at same
        cases same
        rw [misread] at base
        cases base
      · rename_i uri base
        split
        · rename_i error misread
          refine .unfit _ (unfit fun octets' uri' url same known parsed => ?_)
          rw [body] at same
          cases same
          rw [base] at known
          cases known
          rw [misread] at parsed
          cases parsed
        · rename_i url parsed
          exact .made url network (.inl ⟨success, octets, uri, body, base, parsed⟩) (.refl _)
  · rename_i failed
    split
    · rename_i conflict
      exact .made _ _ (.inr ⟨conflict, rfl⟩) (logs_say network _)
    · rename_i other
      refine .unfit _ ?_
      rintro url (⟨success, _⟩ | ⟨conflict, _⟩)
      · exact failed success
      · exact other conflict

def create (proxy : Proxy) (group name : String) : Talk (Except SourceError Url) := do
  match ← ask (proxy.creationRequest group name) with
  | .error error => return .error (unavailable error)
  | .ok response => proxy.instanceUrl group name response

theorem settles_create (proxy : Proxy) (group name : String) (network : Network) :
    Settles (proxy.creationRequest group name)
      (fun response url => proxy.Locates group name url response) network
      ((proxy.create group name).run network) :=
  settles_ask (fun error _ => ⟨unavailable error, rfl⟩)
    (fun response network => reads_instanceUrl proxy group name response network) network

def attach (proxy : Proxy) (topic : String) (url : Url) : Talk (Except SourceError Consumer) := do
  match ← ask (subscriptionRequest url topic) with
  | .error error => return .error (unavailable error)
  | .ok response =>
    if response.status.isSuccess then
      say (.info ("consumer " ++ url.text ++ " subscribed to " ++ topic))
      return .ok ⟨url, proxy.idleMillis, false⟩
    else return .error (statusError response.status response.bodyOrEmpty)

theorem settles_attach (proxy : Proxy) (topic : String) (url : Url) (network : Network) :
    Settles (subscriptionRequest url topic)
      (fun response consumer => response.status.isSuccess = true ∧
        consumer = ⟨url, proxy.idleMillis, false⟩) network
      ((proxy.attach topic url).run network) := by
  refine settles_ask (fun error _ => ⟨unavailable error, rfl⟩) (fun response network => ?_) network
  dsimp only
  split
  · rename_i success
    exact .made _ _ ⟨success, rfl⟩ (logs_say network _)
  · rename_i failed
    exact .unfit _ fun _ made => failed made.1

def attachTo (proxy : Proxy) (topic : String) :
    Except SourceError Url → Talk (Except SourceError Consumer)
  | .error error => return .error error
  | .ok url => proxy.attach topic url

theorem subscribe_eq (proxy : Proxy) (group name topic : String) :
    proxy.subscribe group name topic = proxy.create group name >>= proxy.attachTo topic := by
  unfold subscribe create
  rw [bind_assoc]
  refine bind_congr fun asked => ?_
  cases asked with
  | error error => rfl
  | ok response =>
    refine bind_congr fun located => ?_
    cases located <;> rfl

theorem asks_create (proxy : Proxy) (group name : String) :
    Asks (proxy.create group name) (proxy.creationRequest group name)
      fun response url => Locates proxy group name url response :=
  asks_of_settles (settles_create proxy group name)

theorem asks_attach (proxy : Proxy) (topic : String) (url : Url) :
    Asks (proxy.attach topic url) (subscriptionRequest url topic)
      fun response consumer => response.status.isSuccess = true ∧
        consumer = ⟨url, proxy.idleMillis, false⟩ :=
  asks_of_settles (settles_attach proxy topic url)

end Proxy

end WordTally
