import WordTally.Program
import WordTally.Proofs.Service.Work

set_option autoImplicit false

namespace WordTally

namespace Service

open Http Http.Network

/-- A request of a start, and the answers after which the start goes on. -/
structure Gate where
  request : Request
  opens : Response → Prop

/-- The request has an answer after which the start goes on. -/
def Gate.Passed (gate : Gate) (answer : Answer) : Prop :=
  Answered gate.request answer gate.opens

def IsReadable (response : Response) (octets : Json.Octets) : Prop :=
  response.status.isSuccess = true ∧ response.body = .ok octets

def registration (settings : Settings) (subject schema : String) : Gate where
  request := (⟨settings.schemaRegistry⟩ : Registry).requestOf .post
    ["subjects", subject, "versions"] (some (.object [("schema", .string schema)]))
  opens response := ∃ octets id, IsReadable response octets ∧ Registry.registeredId octets = .ok id

/-- The requests of a start, in their order. The last one goes to the consumer that the one before
it has made or found. -/
def gates (settings : Settings) (consumer : Url) : List Gate :=
  let proxy : Proxy := ⟨settings.restProxy, idleMillis⟩
  [⟨(⟨settings.schemaRegistry⟩ : Registry).requestOf .get ["subjects"] none,
      fun response => ∃ octets, IsReadable response octets⟩,
    registration settings settings.inputSubject RecordSchema.words.text,
    registration settings settings.outputSubject RecordSchema.wordCount.text,
    ⟨proxy.topicsRequest, fun response => response.status.isSuccess = true⟩,
    ⟨proxy.creationRequest settings.applicationId settings.clientId,
      proxy.Locates settings.applicationId settings.clientId consumer⟩,
    ⟨Proxy.subscriptionRequest consumer settings.inputTopic,
      fun response => response.status.isSuccess = true⟩]

theorem isReadable_of_expectSuccess {response : Response} {octets : Json.Octets}
    (success : Registry.expectSuccess response = .ok octets) : IsReadable response octets := by
  unfold Registry.expectSuccess at success
  split at success
  · cases success
  · rename_i body read
    split at success
    · rename_i good
      cases success
      exact ⟨good, read⟩
    · cases success

/-- So many requests have arrived and so many of them were answered well: all, or all but the
last. -/
structure Reached (gates : List Gate) (passed sent : Nat) (before after : Network) : Prop where
  order : passed ≤ sent ∧ sent ≤ passed + 1 ∧ sent ≤ gates.length
  requests : after.requests = before.requests ++ (gates.take sent).map fun gate => gate.request.bare
  answers : after.answers = before.answers.drop sent
  through : ∀ index gate, index < passed → gates[index]? = some gate →
    gate.Passed (before.answer index)

namespace Reached

variable {gates : List Gate} {gate : Gate} {passed sent : Nat} {before middle after : Network}

theorem start (gates : List Gate) (network : Network) : Reached gates 0 0 network network where
  order := ⟨Nat.le_refl 0, Nat.zero_le _, Nat.zero_le _⟩
  requests := by rw [List.take_zero, List.map_nil, List.append_nil]
  answers := by rw [List.drop_zero]
  through := fun _ _ early => absurd early (Nat.not_lt_zero _)

theorem silent (reached : Reached gates passed sent before middle) (silent : Silent middle after) :
    Reached gates passed sent before after :=
  ⟨reached.order, silent.requests.trans reached.requests, silent.answers.trans reached.answers,
    reached.through⟩

theorem hears (reached : Reached gates passed passed before middle)
    (next : gates[passed]? = some gate) (hears : Hears gate.request middle after) :
    Reached gates passed (passed + 1) before after where
  order := ⟨Nat.le_succ _, Nat.le_refl _, (List.getElem?_eq_some_iff.mp next).1⟩
  requests := by
    rw [hears.requests, reached.requests, List.take_add_one, next, Option.toList_some,
      List.map_append, List.map_singleton, List.append_assoc]
  answers := by rw [hears.answers, reached.answers, List.tail_drop]
  through := reached.through

theorem passes (reached : Reached gates passed (passed + 1) before after)
    (next : gates[passed]? = some gate) (good : gate.Passed (before.answer passed)) :
    Reached gates (passed + 1) (passed + 1) before after where
  order := ⟨Nat.le_refl _, Nat.le_succ _, reached.order.2.2⟩
  requests := reached.requests
  answers := reached.answers
  through := by
    intro index other early found
    rcases Nat.lt_succ_iff_lt_or_eq.mp early with earlier | rfl
    · exact reached.through index other earlier found
    · rw [next] at found
      cases found
      exact good

theorem answer_eq (reached : Reached gates passed sent before middle) :
    middle.answer 0 = before.answer sent := by
  rw [answer, answer, reached.answers, List.getElem?_drop, Nat.add_zero]

end Reached

/-- A dialogue that asks for the next gate sends its request or nothing, and has a value only if the
gate was passed. -/
theorem Reached.asks {gates : List Gate} {gate : Gate} {passed : Nat} {before network : Network}
    {ε α : Type} {dialogue : Talk (Except ε α)} {gives : Response → α → Prop}
    (reached : Reached gates passed passed before network) (next : gates[passed]? = some gate)
    (asks : Asks dialogue gate.request gives) :
    (∃ sent, Reached gates passed sent before (dialogue.run network).2) ∧
      ∀ value, (dialogue.run network).1 = .ok value →
        (∀ response, gives response value → gate.opens response) →
          Reached gates (passed + 1) (passed + 1) before (dialogue.run network).2 := by
  rcases asks network with ⟨silent, none⟩ | ⟨hears, given⟩
  · exact ⟨⟨passed, reached.silent silent⟩, fun value same => absurd same (none value)⟩
  · have arrived := reached.hears next hears
    refine ⟨⟨passed + 1, arrived⟩, fun value same opens => ?_⟩
    obtain ⟨response, exchange, gives⟩ := given value same
    rw [reached.answer_eq] at exchange
    exact arrived.passes next ⟨response, exchange, opens response gives⟩

/-- What a start has done by its end: how many requests it sent and how many of them had a good
answer. -/
structure Gated (settings : Settings) (before : Machine) (consumer : Url) (passed sent : Nat)
    (ended : Except Failure Ready × Machine) : Prop where
  reached : Reached (gates settings consumer) passed sent before.network ended.2.network
  /-- Nothing is sent before a broker has accepted a connection. -/
  accepted : 0 < sent → ∃ broker ∈ settings.brokers, Probe.connect before.network broker = .ok ()
  /-- Nothing on the disk is touched before the proxy has listed its topics. -/
  untouched : passed < 4 → ended.2.disk = before.disk
  /-- A start succeeds only if all answers are good. -/
  complete : ∀ ready, ended.1 = .ok ready → passed = 6

def IsGated (settings : Settings) (before : Machine) (ended : Except Failure Ready × Machine) :
    Prop :=
  ∃ consumer passed sent, Gated settings before consumer passed sent ended

section

variable {settings : Settings} {before machine : Machine} {gate : Gate} {passed : Nat} {ε α : Type}

/-- A start that goes through one more gate, or ends there. Up to the fourth gate the consumer is
not known yet. -/
theorem isGated_of_talk {failure : ε → Failure} {dialogue : Talk (Except ε α)}
    {next : α → Work Ready} {gives : Response → α → Prop}
    (accepted : ∃ broker ∈ settings.brokers, Probe.connect before.network broker = .ok ())
    (untouched : machine.disk = before.disk)
    (reached : ∀ consumer,
      Reached (gates settings consumer) passed passed before.network machine.network)
    (found : ∀ consumer, (gates settings consumer)[passed]? = some gate)
    (asks : Asks dialogue gate.request gives)
    (opens : ∀ response value, gives response value → gate.opens response)
    (goesOn : ∀ value after, after.disk = before.disk →
      (∀ consumer, Reached (gates settings consumer) (passed + 1) (passed + 1) before.network
        after.network) → IsGated settings before ((next value).exec after)) :
    IsGated settings before ((Work.talk failure dialogue >>= next).exec machine) := by
  have later := Work.silent_talk dialogue machine
  refine Work.of_bind (fun error after ended => ?_) fun value after ended => ?_
  all_goals
    rw [Work.exec_talk] at ended
    obtain ⟨result, rfl⟩ := Prod.mk.inj ended
  · obtain ⟨⟨sent, stopped⟩, -⟩ := (reached settings.restProxy).asks (found _) asks
    refine ⟨settings.restProxy, passed, sent, stopped.silent later, fun _ => accepted,
      fun _ => untouched, fun ready same => ?_⟩
    cases same
  · refine goesOn value _ untouched fun consumer => ?_
    have given : (dialogue.run machine.network).1 = .ok value := by
      split at result
      · rename_i other same
        cases result
        exact same
      · cases result
    exact (((reached consumer).asks (found consumer) asks).2 value given
      fun response => opens response value).silent later

theorem opens_registration {subject schema : String} {response : Response} {id : Nat}
    (given : ∃ octets, Registry.expectSuccess response = .ok octets ∧
      Registry.registeredId octets = .ok id) :
    (registration settings subject schema).opens response := by
  obtain ⟨octets, success, read⟩ := given
  exact ⟨octets, id, isReadable_of_expectSuccess success, read⟩

/-- The last two gates: the consumer and its subscription. -/
theorem Reached.subscribe {first network : Network}
    (reached : ∀ consumer, Reached (gates settings consumer) 4 4 first network) :
    let ended := ((⟨settings.restProxy, idleMillis⟩ : Proxy).subscribe settings.applicationId
      settings.clientId settings.inputTopic).run network
    ∃ consumer passed sent, 4 ≤ passed ∧
      Reached (gates settings consumer) passed sent first ended.2 ∧
        ∀ value, ended.1 = .ok value → passed = 6 := by
  have create := Proxy.asks_create ⟨settings.restProxy, idleMillis⟩ settings.applicationId
    settings.clientId
  rw [Proxy.subscribe_eq]
  dsimp only
  rw [run_bind]
  cases created : ((Proxy.create ⟨settings.restProxy, idleMillis⟩ settings.applicationId
      settings.clientId).run network).1 with
  | error error =>
    obtain ⟨⟨sent, stopped⟩, -⟩ := (reached settings.restProxy).asks rfl create
    refine ⟨settings.restProxy, 4, sent, Nat.le_refl 4, stopped, fun value same => ?_⟩
    cases same
  | ok url =>
    have located := ((reached url).asks rfl create).2 url created fun response gives => gives
    have attach := Proxy.asks_attach ⟨settings.restProxy, idleMillis⟩ settings.inputTopic url
    cases attached : ((Proxy.attach ⟨settings.restProxy, idleMillis⟩ settings.inputTopic url).run
        ((Proxy.create ⟨settings.restProxy, idleMillis⟩ settings.applicationId
          settings.clientId).run network).2).1 with
    | error error =>
      obtain ⟨⟨sent, stopped⟩, -⟩ := located.asks rfl attach
      refine ⟨url, 5, sent, by decide, stopped, fun value same => ?_⟩
      cases attached.symm.trans same
    | ok value =>
      exact ⟨url, 6, 6, by decide,
        (located.asks rfl attach).2 value attached fun response gives => gives.1,
        fun _ _ => rfl⟩

/-- Once the proxy has listed its topics, the state is prepared and the consumer subscribed. -/
theorem isGated_of_state {task : Disk → Except SnapshotError (Tally × LogLine) × Disk}
    {finish : Tally → Proxy.Consumer → Ready}
    (accepted : ∃ broker ∈ settings.brokers, Probe.connect before.network broker = .ok ())
    (reached : ∀ consumer,
      Reached (gates settings consumer) 4 4 before.network machine.network) :
    IsGated settings before ((do
      let tally ← Work.onDisk task
      let consumer ← Work.talk .subscription ((⟨settings.restProxy, idleMillis⟩ : Proxy).subscribe
        settings.applicationId settings.clientId settings.inputTopic)
      return finish tally consumer : Work Ready).exec machine) := by
  have prepared := Work.silent_onDisk task machine
  refine Work.of_bind (fun failure after ended => ?_) fun tally after ended => ?_
  all_goals
    rw [ended] at prepared
  · refine ⟨settings.restProxy, 4, 4, (reached _).silent prepared, fun _ => accepted,
      fun few => absurd few (Nat.lt_irrefl 4), fun ready same => ?_⟩
    cases same
  · obtain ⟨consumer, passed, sent, most, subscribed, complete⟩ :=
      Reached.subscribe fun consumer => (reached consumer).silent prepared
    have enough : ¬ passed < 4 := Nat.not_lt.mpr most
    refine Work.of_bind (fun error after stopped => ?_) fun value after done => ?_
    · rw [Work.exec_talk] at stopped
      obtain ⟨-, rfl⟩ := Prod.mk.inj stopped
      refine ⟨consumer, passed, sent, subscribed.silent (Work.silent_talk _ _), fun _ => accepted,
        fun few => absurd few enough, fun ready same => ?_⟩
      cases same
    · rw [Work.exec_talk] at done
      obtain ⟨result, rfl⟩ := Prod.mk.inj done
      refine ⟨consumer, passed, sent, subscribed.silent (Work.silent_talk _ _), fun _ => accepted,
        fun few => absurd few enough, fun ready same => ?_⟩
      split at result
      · rename_i value given
        exact complete value given
      · cases result

end

theorem prepare_gated (settings : Settings) (before : Machine) :
    IsGated settings before ((prepare settings).exec before) := by
  have begun : ∀ consumer, Reached (gates settings consumer) 0 0 before.network before.network :=
    fun consumer => .start _ _
  obtain ⟨silent, probed⟩ := Probe.run_spec settings.brokers before.network
  unfold prepare
  rw [Work.exec_say_bind]
  refine Work.of_bind (fun failure after ended => ?_) fun broker after ended => ?_
  · rw [Work.exec_talk] at ended
    obtain ⟨-, rfl⟩ := Prod.mk.inj ended
    refine ⟨settings.restProxy, 0, 0, ?_, fun sent => absurd sent (Nat.lt_irrefl 0), fun _ => rfl,
      fun ready same => ?_⟩
    · exact ((begun _).silent silent).silent (Work.silent_talk _ _)
    · cases same
  · rw [Work.exec_talk] at ended
    obtain ⟨result, rfl⟩ := Prod.mk.inj ended
    have accepted : ∃ broker ∈ settings.brokers, Probe.connect before.network broker = .ok () := by
      split at result
      · rename_i found same
        exact ⟨found, probed found same⟩
      · cases result
    rw [Work.exec_say_bind]
    dsimp only
    refine isGated_of_talk accepted rfl
      (fun consumer => ((begun consumer).silent silent).silent (Work.silent_talk _ _))
      (fun consumer => rfl) (Registry.asks_checkReachable _)
      (fun response value success => success.imp fun octets => isReadable_of_expectSuccess)
      fun _ listed disk reached => ?_
    refine isGated_of_talk accepted disk reached (fun consumer => rfl)
      (Registry.asks_register _ _ _) (fun response id => opens_registration)
      fun _ input disk reached => ?_
    refine isGated_of_talk accepted disk reached (fun consumer => rfl)
      (Registry.asks_register _ _ _) (fun response id => opens_registration)
      fun schemaId output disk reached => ?_
    refine isGated_of_talk accepted disk reached (fun consumer => rfl)
      (Proxy.asks_checkReachable _) (fun response value success => success)
      fun _ ready disk reached => ?_
    exact isGated_of_state accepted reached

end Service

namespace Program

open Service

def opened (settings : Settings) (machine : Machine) : Machine :=
  { machine with disk := (openLog settings.logFile machine.disk).2.2 }

/-- With invalid settings the program fails and does nothing. With valid ones its start sends its
requests in their order, each after a good answer to the one before it, none before a broker has
accepted a connection, and touches nothing on the disk before the proxy has listed its topics. It
succeeds only if all six answers are good; if it fails, so does the program, which sends nothing
more, and on the disk there is nothing new but the files that have appeared meanwhile. -/
theorem run_gated (lookup : String → Option String) (time : String) (machine : Machine) :
    (∀ error, Settings.read lookup = .error error →
      (run lookup time machine).1.succeeded = false ∧ (run lookup time machine).2 = machine) ∧
    ∀ settings, Settings.read lookup = .ok settings →
      let started := (prepare settings).run.run (opened settings machine)
      IsGated settings (opened settings machine) started ∧
        ∀ failure, started.1 = .error failure →
          (run lookup time machine).1.succeeded = false ∧
          (run lookup time machine).2.network.requests = started.2.network.requests ∧
          (run lookup time machine).2.disk = started.2.settle.disk := by
  refine ⟨fun error misread => ?_, fun settings read => ⟨?_, fun failure failed => ?_⟩⟩
  · unfold run
    rw [misread]
    exact ⟨rfl, rfl⟩
  · exact prepare_gated settings (opened settings machine)
  · have stopped : (prepare settings).exec (opened settings machine) =
        (.error failure, ((prepare settings).exec (opened settings machine)).2) := by
      rw [← failed]
      rfl
    have ran : (Service.run settings time).run.run (opened settings machine) =
        (.error failure, ((prepare settings).exec (opened settings machine)).2) := by
      change (Service.run settings time).exec (opened settings machine) = _
      unfold Service.run
      rw [Work.exec_bind, stopped]
    unfold run
    rw [read]
    unfold opened at ran
    dsimp only
    rw [ran]
    exact ⟨rfl, rfl, rfl⟩

/-- A machine on which nothing is set up but the peers: the registry knows the first schema and
refuses the second. -/
def halfway : Machine where
  network :=
    { httpPeers := [("localhost", 8081), ("localhost", 8082)]
      tcpPeers := [("localhost", 9092)]
      answers := [⟨.respond ⟨200⟩ [], none⟩,
        ⟨.respond ⟨200⟩ "\x7b\"id\":1\x7d".toUTF8.toList, none⟩, ⟨.respond ⟨409⟩ [], none⟩]
      requests := []
      files := []
      log := [] }
  disk := Disk.ofTree .empty
  log := []

theorem halfway_gated :
    ∃ settings, Settings.read (fun _ => none) = .ok settings ∧
      IsGated settings (opened settings halfway)
        ((prepare settings).run.run (opened settings halfway)) ∧
      (run (fun _ => none) "now" halfway).1.succeeded = false ∧
      (run (fun _ => none) "now" halfway).2.network.requests.length = 3 := by
  have valid : (Settings.read fun _ => none).toOption.isSome = true := by decide +kernel
  cases read : Settings.read fun _ => none with
  | error error =>
    rw [read] at valid
    cases valid
  | ok settings =>
    have gated := (run_gated (fun _ => none) "now" halfway).2 settings read
    exact ⟨settings, rfl, gated.1, by decide +kernel, by decide +kernel⟩

end Program

end WordTally
