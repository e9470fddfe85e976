import WordTally.Http.Network

/-
What becomes of a request. Whether it arrives is decided by the host and the scheme of its URL
alone, which are the same for all endpoints below one base; so whoever has reached one of them
reaches them all, as long as the peers stay. A request that arrives takes the next answer.
-/

set_option autoImplicit false

namespace WordTally

namespace Url

@[simp] theorem scheme_join (base : Url) (names : List String) :
    (base.join names).scheme = base.scheme := by
  unfold join
  split <;> rfl

@[simp] theorem authority_join (base : Url) (names : List String) :
    (base.join names).authority = base.authority := by
  unfold join
  split <;> rfl

end Url

namespace Http

/-- A request as it arrives: credentials do not show in its URL. -/
def Request.bare (request : Request) : Request :=
  { request with url := request.url.withoutCredentials }

namespace Network

variable {before middle after network : Network} {request : Request} {response : Response}
  {earlier : Nat} {ε α β : Type}

/-- What peers do with a request that so many others precede. -/
def answer (network : Network) (earlier : Nat) : Answer :=
  (network.answers[earlier]?.getD lastAnswer).answer

def admits (network : Network) (url : Url) : Bool :=
  url.hasHost && (url.scheme = "http" || url.scheme = "https") && network.reaches url

def heard (network : Network) (request : Request) : Network :=
  { network with
    answers := network.answers.tail
    requests := network.requests ++ [request.bare]
    files := network.files ++ (network.answers.head?.getD lastAnswer).file.toList }

/-- A request that so many others precede arrives and is answered. -/
def Replies (network : Network) (earlier : Nat) (request : Request) (response : Response) : Prop :=
  network.admits request.bare.url = true ∧
    Answer.exchange request.bare.url (network.answer earlier) = .answered response

/-- The next request is answered with success, and the whole body arrives. -/
def Welcomes (network : Network) (request : Request) (body : Json.Octets) : Prop :=
  ∃ status, status.isSuccess = true ∧ network.Replies 0 request ⟨status, .ok body⟩

theorem Replies.unique {other : Response} (replies : network.Replies earlier request response)
    (again : network.Replies earlier request other) : response = other := by
  have same := replies.2.symm.trans again.2
  cases same
  rfl

theorem admits_of_peers {url : Url} (same : after.httpPeers = before.httpPeers) :
    after.admits url = before.admits url := by
  simp only [admits, reaches, same]

/-- All URLs with one scheme, host and port are reached alike, whatever their credentials. -/
theorem admits_congr {url other : Url} (schemes : url.scheme = other.scheme)
    (authorities : url.authority = other.authority) :
    network.admits url.withoutCredentials = network.admits other.withoutCredentials := by
  cases url
  cases other
  cases schemes
  cases authorities
  rfl

theorem run_bind (first : Talk α) (next : α → Talk β) (network : Network) :
    (first >>= next).run network = (next (first.run network).1).run (first.run network).2 := rfl

theorem run_get (network : Network) : (get : Talk Network).run network = (network, network) := rfl

/-- A request that finds someone takes the next answer; otherwise nothing happens. -/
theorem run_send (request : Request) (network : Network) :
    (network.admits request.bare.url = true ∧ (send request).run network =
        (Answer.exchange request.bare.url (network.answer 0), network.heard request)) ∨
      network.admits request.bare.url = false ∧
        ∃ error, (send request).run network = (.failed error, network) := by
  have next : network.answer 0 = (network.answers.head?.getD lastAnswer).answer := by
    rw [answer, List.head?_eq_getElem?]
  have bare : request.bare.url = request.url.withoutCredentials := rfl
  rw [bare]
  unfold send admits
  dsimp only
  split
  · rename_i away
    refine .inr ⟨?_, _, rfl⟩
    simp only [Bool.or_eq_true, Bool.not_eq_true', Bool.and_eq_true, decide_eq_true_eq] at away
    rcases away with homeless | ⟨noHttp, noHttps⟩
    · simp [homeless]
    · simp [noHttp, noHttps]
  · rename_i usable
    rw [run_bind, run_get]
    dsimp only
    split
    · rename_i refused
      refine .inr ⟨?_, _, rfl⟩
      simp only [Bool.not_eq_true'] at refused
      simp [refused]
    · rename_i reached
      left
      rw [next]
      refine ⟨?_, rfl⟩
      simp only [Bool.or_eq_true, Bool.not_eq_true', Bool.and_eq_true, decide_eq_true_eq, not_or,
        not_and, Bool.not_eq_false] at usable reached
      have scheme : request.url.withoutCredentials.scheme = "http" ∨
          request.url.withoutCredentials.scheme = "https" :=
        Decidable.or_iff_not_imp_left.mpr fun noHttp => Decidable.not_not.mp (usable.2 noHttp)
      simp [reached, usable.1, scheme]

theorem run_send_of_replies (replies : network.Replies 0 request response) :
    (send request).run network = (.answered response, network.heard request) := by
  rcases run_send request network with ⟨_, sent⟩ | ⟨away, _⟩
  · rw [sent, replies.2]
  · rw [replies.1] at away
    cases away

theorem run_ask_of_replies (replies : network.Replies 0 request response) :
    (ask request).run network = (.ok response, network.heard request) := by
  unfold ask
  rw [run_bind, run_send_of_replies replies]
  rfl

/-- Nothing has happened but that something was logged. -/
def Logs (before after : Network) : Prop := ∃ lines, after = { before with log := lines }

theorem Logs.refl (network : Network) : Logs network network := ⟨network.log, rfl⟩

theorem logs_say (network : Network) (line : LogLine) : Logs network ((say line).run network).2 :=
  ⟨_, rfl⟩

theorem Logs.trans (first : Logs before middle) (second : Logs middle after) :
    Logs before after := by
  obtain ⟨_, rfl⟩ := first
  obtain ⟨lines, rfl⟩ := second
  exact ⟨lines, rfl⟩

theorem Logs.requests (logs : Logs before after) : after.requests = before.requests := by
  obtain ⟨lines, rfl⟩ := logs
  rfl

theorem Logs.peers (logs : Logs before after) : after.httpPeers = before.httpPeers := by
  obtain ⟨lines, rfl⟩ := logs
  rfl

theorem replies_of_heard {other : Request} (logs : Logs (network.heard request) after) :
    after.Replies earlier other response ↔ network.Replies (earlier + 1) other response := by
  obtain ⟨lines, rfl⟩ := logs
  have next : (network.heard request).answer earlier = network.answer (earlier + 1) := by
    change ((network.answers.tail)[earlier]?.getD lastAnswer).answer = _
    rw [List.getElem?_tail]
    rfl
  change network.admits other.bare.url = true ∧
    Answer.exchange other.bare.url ((network.heard request).answer earlier) = _ ↔ _
  rw [next]
  rfl

/-- What is made of an answer that has arrived: a value of some kind, if there is one. -/
inductive Reads (makes : α → Prop) (network : Network) : Except ε α × Network → Prop where
  | made (value : α) (after : Network) (made : makes value) (logs : Logs network after) :
      Reads makes network (.ok value, after)
  | unfit (error : ε) (none : ∀ value, ¬ makes value) :
      Reads makes network (.error error, network)

/-- The ends of a dialogue that needs the answer to one request. -/
inductive Settles (request : Request) (makes : Response → α → Prop) (network : Network) :
    Except ε α × Network → Prop where
  | made (response : Response) (value : α) (after : Network)
      (replies : network.Replies 0 request response) (made : makes response value)
      (logs : Logs (network.heard request) after) : Settles request makes network (.ok value, after)
  | unfit (error : ε) (after : Network)
      (there : network.admits request.bare.url = true)
      (none : ∀ response value, network.Replies 0 request response → ¬ makes response value)
      (logs : Logs (network.heard request) after) :
      Settles request makes network (.error error, after)
  | unsent (error : ε)
      (away : network.admits request.bare.url = false) :
      Settles request makes network (.error error, network)

theorem run_ask (request : Request) (network : Network) :
    Settles request (fun response value => value = response) network
      ((ask request).run network) := by
  unfold ask
  rw [run_bind]
  rcases run_send request network with ⟨there, sent⟩ | ⟨away, error, sent⟩
  · rw [sent]
    dsimp only
    cases exchange : Answer.exchange request.bare.url (network.answer 0) with
    | answered response =>
      exact .made response response _ ⟨there, exchange⟩ rfl (.refl _)
    | failed error | interrupted signal error =>
      refine .unfit error _ there (fun response _ replies => ?_) (.refl _)
      have same := exchange.symm.trans replies.2
      cases same
  · rw [sent]
    exact .unsent error away

/-- A dialogue that asks and then makes something of the answer without asking again. -/
theorem settles_ask {next : Except TransportError Response → Talk (Except ε α)}
    {makes : Response → α → Prop}
    (fails : ∀ error network, ∃ failure,
      (next (.error error)).run network = (.error failure, network))
    (goesOn : ∀ response network,
      Reads (makes response) network ((next (.ok response)).run network))
    (network : Network) :
    Settles request makes network ((ask request >>= next).run network) := by
  rw [run_bind]
  have asked := run_ask request network
  generalize (ask request).run network = ended at asked
  cases asked with
  | made response value after replies same logs =>
    subst same
    have read := goesOn value after
    dsimp only
    generalize (next (.ok value)).run after = result at read
    cases read with
    | made value' last made further =>
      exact .made value value' last replies made (logs.trans further)
    | unfit error none =>
      refine .unfit error after replies.1 (fun other value' again => ?_) logs
      rw [← replies.unique again]
      exact none value'
  | unfit error after there none logs =>
    obtain ⟨failure, failed⟩ := fails error after
    dsimp only
    rw [failed]
    exact .unfit failure after there
      (fun response _ replies => absurd rfl (none response response replies)) logs
  | unsent error away =>
    obtain ⟨failure, failed⟩ := fails error network
    dsimp only
    rw [failed]
    exact .unsent failure away

end Network

end Http

end WordTally
