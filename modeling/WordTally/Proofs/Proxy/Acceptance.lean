import WordTally.Proofs.Json.Shapes
import WordTally.Proofs.Proxy.Refusals

set_option autoImplicit false

namespace WordTally.Proxy

open Http Http.Network Json

namespace Produced

/-- The update is refused for good: its code is none of the harmless ones. -/
def isFatal (entry : Produced) : Bool :=
  match entry.errorCode with
  | some code => code ≠ retriableCode
  | none => false

def isRetriable (entry : Produced) : Bool := entry.errorCode = some retriableCode

/-- What an entry with a code says: its error, or else the code. -/
def Explains (entry : Produced) (text : String) : Prop :=
  ∃ code, entry.errorCode = some code ∧ text = entry.error.getD ("error code " ++ toString code)

end Produced

/-- What entries decide: the first that is refused for good does, else the first that may pass
later, and entries without codes accept all. -/
inductive Decides (entries : List Produced) : Option SinkError → Prop where
  | rejected (entry : Produced) (text : String)
      (worst : entries.find? Produced.isFatal = some entry) (explained : entry.Explains text) :
      Decides entries (some (.rejected text))
  | transient (entry : Produced) (text : String)
      (bearable : entries.find? Produced.isFatal = none)
      (first : entries.find? Produced.isRetriable = some entry) (explained : entry.Explains text) :
      Decides entries (some (.transient text))
  | accepted (clean : ∀ entry ∈ entries, entry.errorCode = none) : Decides entries none

section Verdicts

variable {entry : Produced} {entries others : List Produced} {error : Option SinkError}
  {text : String}

theorem Produced.Explains.unique {other : String} (explained : entry.Explains text)
    (again : entry.Explains other) : text = other := by
  obtain ⟨code, coded, rfl⟩ := explained
  obtain ⟨same, coded', rfl⟩ := again
  cases coded.symm.trans coded'
  rfl

theorem not_isFatal_of_clean (clean : entry.errorCode = none) : entry.isFatal = false := by
  simp [Produced.isFatal, clean]

theorem not_isRetriable_of_clean (clean : entry.errorCode = none) : entry.isRetriable = false := by
  simp [Produced.isRetriable, clean]

theorem find?_of_clean {kind : Produced → Bool} (clean : ∀ entry ∈ entries, entry.errorCode = none)
    (none : ∀ entry : Produced, entry.errorCode = none → kind entry = false) :
    entries.find? kind = .none :=
  List.find?_eq_none.mpr fun entry member => by simp [none entry (clean entry member)]

theorem Decides.cons_clean (coded : entry.errorCode = none) (decides : Decides entries error) :
    Decides (entry :: entries) error := by
  have fatal : (entry :: entries).find? Produced.isFatal = entries.find? Produced.isFatal :=
    List.find?_cons_of_neg (by simp [not_isFatal_of_clean coded])
  have retriable : (entry :: entries).find? Produced.isRetriable =
      entries.find? Produced.isRetriable :=
    List.find?_cons_of_neg (by simp [not_isRetriable_of_clean coded])
  cases decides with
  | rejected worst text found explained =>
    exact .rejected worst text (fatal.trans found) explained
  | transient first text bearable found explained =>
    exact .transient first text (fatal.trans bearable) (retriable.trans found) explained
  | accepted clean => exact .accepted (List.forall_mem_cons.mpr ⟨coded, clean⟩)

theorem Decides.cons_retriable (coded : entry.errorCode = some retriableCode)
    (decides : Decides entries (verdict entries)) :
    Decides (entry :: entries) (verdict (entry :: entries)) := by
  have fatal : (entry :: entries).find? Produced.isFatal = entries.find? Produced.isFatal :=
    List.find?_cons_of_neg (by simp [Produced.isFatal, coded])
  have first : (entry :: entries).find? Produced.isRetriable = some entry :=
    List.find?_cons_of_pos (by simp [Produced.isRetriable, coded])
  have transient (bearable : entries.find? Produced.isFatal = none) :
      Decides (entry :: entries) (some (.transient (entry.message retriableCode))) :=
    .transient entry _ (fatal.trans bearable) first ⟨retriableCode, coded, rfl⟩
  unfold verdict
  rw [coded]
  dsimp only
  rw [if_pos rfl]
  generalize verdict entries = error at decides
  cases decides with
  | rejected worst text found explained =>
    exact .rejected worst text (fatal.trans found) explained
  | transient _ _ bearable => exact transient bearable
  | accepted clean => exact transient (find?_of_clean clean fun _ => not_isFatal_of_clean)

theorem Decides.cons_fatal {code : Int} (coded : entry.errorCode = some code)
    (lasting : code ≠ retriableCode) :
    Decides (entry :: entries) (some (.rejected (entry.message code))) := by
  have worst : (entry :: entries).find? Produced.isFatal = some entry :=
    List.find?_cons_of_pos (by simp [Produced.isFatal, coded, lasting])
  exact .rejected entry _ worst ⟨code, coded, rfl⟩

theorem decides_verdict (entries : List Produced) : Decides entries (verdict entries) := by
  induction entries with
  | nil => exact .accepted nofun
  | cons entry rest ih =>
    cases coded : entry.errorCode with
    | none =>
      have same : verdict (entry :: rest) = verdict rest := by simp [verdict, coded]
      rw [same]
      exact ih.cons_clean coded
    | some code =>
      by_cases passing : code = retriableCode
      · subst passing
        exact ih.cons_retriable coded
      · have same : verdict (entry :: rest) = some (.rejected (entry.message code)) := by
          simp [verdict, coded, passing]
        rw [same]
        exact .cons_fatal coded passing

theorem Decides.unique {other : Option SinkError} (decides : Decides entries error)
    (again : Decides entries other) : error = other := by
  cases decides with
  | rejected worst text found explained =>
    cases again with
    | rejected worst' text' found' explained' =>
      cases found.symm.trans found'
      rw [explained.unique explained']
    | transient _ _ bearable => cases found.symm.trans bearable
    | accepted clean =>
      cases found.symm.trans (find?_of_clean clean fun _ => not_isFatal_of_clean)
  | transient first text bearable found explained =>
    cases again with
    | rejected _ _ worst => cases bearable.symm.trans worst
    | transient first' text' _ found' explained' =>
      cases found.symm.trans found'
      rw [explained.unique explained']
    | accepted clean =>
      cases found.symm.trans (find?_of_clean clean fun _ => not_isRetriable_of_clean)
  | accepted clean =>
    cases again with
    | rejected _ _ found =>
      cases found.symm.trans (find?_of_clean clean fun _ => not_isFatal_of_clean)
    | transient _ _ _ found =>
      cases found.symm.trans (find?_of_clean clean fun _ => not_isRetriable_of_clean)
    | accepted => rfl

theorem verdict_eq_iff : verdict entries = error ↔ Decides entries error :=
  ⟨fun same => same ▸ decides_verdict entries,
    fun decides => (decides_verdict entries).unique decides⟩

/-- Of what kind the verdict is does not depend on where the entries stand. -/
theorem isRetryable_verdict (entries : List Produced) :
    (verdict entries).map SinkError.isRetryable =
      if entries.any Produced.isFatal then some false
      else if entries.any Produced.isRetriable then some true
      else none := by
  have decides := decides_verdict entries
  generalize verdict entries = error at decides
  cases decides with
  | rejected entry text worst =>
    have some_ : entries.any Produced.isFatal = true :=
      List.any_eq_true.mpr ⟨entry, List.mem_of_find?_eq_some worst, List.find?_some worst⟩
    rw [if_pos some_]
    rfl
  | transient entry text bearable first =>
    have none_ : ¬ entries.any Produced.isFatal = true := by
      simpa [List.any_eq_true] using List.find?_eq_none.mp bearable
    have some_ : entries.any Produced.isRetriable = true :=
      List.any_eq_true.mpr ⟨entry, List.mem_of_find?_eq_some first, List.find?_some first⟩
    rw [if_neg none_, if_pos some_]
    rfl
  | accepted clean =>
    have fatal := List.find?_eq_none.mp (find?_of_clean clean fun _ => not_isFatal_of_clean)
    have retriable :=
      List.find?_eq_none.mp (find?_of_clean clean fun _ => not_isRetriable_of_clean)
    rw [if_neg (by simpa [List.any_eq_true] using fatal),
      if_neg (by simpa [List.any_eq_true] using retriable)]
    rfl

theorem isRetryable_verdict_of_perm (order : entries.Perm others) :
    (verdict entries).map SinkError.isRetryable = (verdict others).map SinkError.isRetryable := by
  rw [isRetryable_verdict, isRetryable_verdict, order.any_eq, order.any_eq]

end Verdicts

/-- Members report the fate of one update: perhaps a code, perhaps an error. -/
structure Reports (named : Named) (entry : Produced) : Prop where
  others : ∀ member ∈ named, member.1 ∉ ["error_code", "error"] → member.2.skip = .ok ()
  errorCode : ∃ code, Gives named "error_code"
    (Node.IsOptional (Node.IsInteger (-2147483648) 2147483647)) code ∧
    entry.errorCode = code.getD none
  error : ∃ error, Gives named "error" (Node.IsOptional Node.IsText) error ∧
    entry.error = error.getD none

def IsEntry (node : Node) (entry : Produced) : Prop :=
  ∃ named, producedOffset.Consists node named ∧ Reports named entry

/-- A text is a response: perhaps with a list of entries, and nothing else. -/
def IsResponse (document : Document) (entries : List Produced) : Prop :=
  document.trailing = false ∧ ∃ named, produceResponse.Consists document.root named ∧
    (∀ member ∈ named, member.1 ≠ "offsets" → member.2.skip = .ok ()) ∧
    ∃ offsets, Gives named "offsets" (Node.IsList IsEntry) offsets ∧ entries = offsets.getD []

namespace ProducedOffset

theorem field_cases {field : Json.Field PartialProduced} (member : field ∈ producedOffset.fields) :
    (field.name = "error_code" ∧ field.Fills PartialProduced.errorCode
      (fun _ node => node.optional (Node.integer (-2147483648) 2147483647 "i32"))
      fun record code => { record with errorCode := some code }) ∨
    (field.name = "error" ∧ field.Fills PartialProduced.error
      (fun _ node => node.optional Node.text)
      fun record error => { record with error := some error }) := by
  simp only [producedOffset, List.mem_cons, List.not_mem_nil, or_false] at member
  rcases member with rfl | rfl
  · exact .inl ⟨rfl, fun _ => rfl, fun _ _ _ => rfl, fun _ _ => rfl⟩
  · exact .inr ⟨rfl, fun _ => rfl, fun _ _ _ => rfl, fun _ _ => rfl⟩

theorem keeps_errorCode : producedOffset.Keeps "error_code" PartialProduced.errorCode
    fun _ node => node.optional (Node.integer (-2147483648) 2147483647 "i32") := by
  refine Shape.keeps_of_fields rfl fun field member => ?_
  rcases field_cases member with ⟨called, fills⟩ | ⟨called, fills⟩
  · exact .inl ⟨called, fills.stores⟩
  · exact .inr ⟨by simp [called], fills.spares fun _ _ => rfl⟩

theorem keeps_error : producedOffset.Keeps "error" PartialProduced.error
    fun _ node => node.optional Node.text := by
  refine Shape.keeps_of_fields rfl fun field member => ?_
  rcases field_cases member with ⟨called, fills⟩ | ⟨called, fills⟩
  · exact .inr ⟨by simp [called], fills.spares fun _ _ => rfl⟩
  · exact .inl ⟨called, fills.stores⟩

theorem regular : producedOffset.Regular := by
  refine ⟨by decide, fun field member => ?_⟩
  rcases field_cases member with ⟨called, -⟩ | ⟨called, -⟩
  · exact ⟨_, _, _, called ▸ keeps_errorCode⟩
  · exact ⟨_, _, _, called ▸ keeps_error⟩

def readEntry (levels : Nat) (node : Node) : Except Fault Produced :=
  (producedOffset.read levels node).map PartialProduced.complete

theorem readEntry_eq_ok_iff {levels : Nat} {node : Node} {entry : Produced} :
    readEntry (levels + 1) node = .ok entry ↔ IsEntry node entry := by
  have codeMeans : ∀ node code, node.optional (Node.integer (-2147483648) 2147483647 "i32") =
      .ok code ↔ Node.IsOptional (Node.IsInteger (-2147483648) 2147483647) node code := by
    intro node code
    simp only [Node.optional_eq_ok_iff, Node.integer_eq_ok_iff]
  have errorMeans : ∀ node error, node.optional Node.text = .ok error ↔
      Node.IsOptional Node.IsText node error := by
    intro node error
    simp only [Node.optional_eq_ok_iff, Node.text_eq_ok_iff]
  unfold readEntry
  rw [map_eq_ok_iff]
  constructor
  · rintro ⟨record, read, rfl⟩
    obtain ⟨named, consists, renders⟩ := Shape.renders_of_read regular read
    have code := (renders.gives keeps_errorCode (by decide)).imp fun _ _ => (codeMeans _ _).mp
    have error := (renders.gives keeps_error (by decide)).imp fun _ _ => (errorMeans _ _).mp
    exact ⟨named, consists, renders.skipped, ⟨_, code, rfl⟩, ⟨_, error, rfl⟩⟩
  · rintro ⟨named, consists, reports⟩
    obtain ⟨code, code_, sameCode⟩ := reports.errorCode
    obtain ⟨error, error_, sameError⟩ := reports.error
    have givesCode := code_.imp fun _ _ => (codeMeans _ _).mpr
    have givesError := error_.imp fun _ _ => (errorMeans _ _).mpr
    have offers : ∀ name ∈ producedOffset.names,
        producedOffset.Offers levels named producedOffset.blank name := by
      intro name listed
      simp only [Shape.names, producedOffset, List.map_cons, List.map_nil, List.mem_cons,
        List.not_mem_nil, or_false] at listed
      rcases listed with rfl | rfl
      · exact keeps_errorCode.offers givesCode
      · exact keeps_error.offers givesError
    obtain ⟨record, read, renders⟩ := Shape.exists_read regular consists reports.others offers
    refine ⟨record, read, ?_⟩
    unfold PartialProduced.complete
    rw [renders.part_eq keeps_errorCode (by decide) givesCode,
      renders.part_eq keeps_error (by decide) givesError, ← sameCode, ← sameError]

end ProducedOffset

namespace ProduceResponse

theorem eq_offsets {field : Json.Field (Option (List Produced))}
    (member : field ∈ produceResponse.fields) :
    field.name = "offsets" ∧ field.Fills id
      (fun levels node => node.list levels ProducedOffset.readEntry)
      fun _ entries => some entries := by
  simp only [produceResponse, List.mem_cons, List.not_mem_nil, or_false] at member
  subst member
  exact ⟨rfl, fun _ => rfl, fun _ _ _ => rfl, fun _ _ => rfl⟩

theorem keeps_offsets : produceResponse.Keeps "offsets" id fun levels node =>
    node.list levels ProducedOffset.readEntry := by
  refine Shape.keeps_of_fields rfl fun field member => ?_
  obtain ⟨called, fills⟩ := eq_offsets member
  exact .inl ⟨called, fills.stores⟩

theorem regular : produceResponse.Regular :=
  ⟨by decide, fun _ member => ⟨_, _, _, (eq_offsets member).1 ▸ keeps_offsets⟩⟩

end ProduceResponse

/-- The answer to a publication is read exactly if it is a response. -/
theorem produced_eq_ok_iff {body : Octets} {entries : List Produced} :
    produced body = .ok entries ↔ IsResponse (Document.ofOctets body) entries := by
  have means : ∀ node entries, node.list (deepest - 2 + 1) ProducedOffset.readEntry =
      .ok entries ↔ Node.IsList IsEntry node entries := by
    intro node entries
    have same : (fun node entry => ProducedOffset.readEntry (deepest - 2) node = .ok entry) =
        IsEntry := by
      funext node entry
      exact propext ProducedOffset.readEntry_eq_ok_iff
    rw [Node.list_eq_ok_iff, same]
  unfold produced IsResponse
  rw [Document.read_eq_ok_iff, and_comm]
  refine and_congr_right fun _ => ?_
  change ((produceResponse.read (deepest - 1 + 1) _).map fun found => found.getD []) = _ ↔ _
  rw [map_eq_ok_iff]
  constructor
  · rintro ⟨record, read, rfl⟩
    obtain ⟨named, consists, renders⟩ := Shape.renders_of_read ProduceResponse.regular read
    have offsets := (renders.gives ProduceResponse.keeps_offsets (by decide)).imp
      fun _ _ => (means _ _).mp
    refine ⟨named, consists, fun member listed unknown => ?_, record, offsets, rfl⟩
    exact renders.skipped member listed (by simpa [Shape.names, produceResponse] using unknown)
  · rintro ⟨named, consists, others, offsets, gives, rfl⟩
    have given := gives.imp fun _ _ => (means _ _).mpr
    have skipped : ∀ member ∈ named, member.1 ∉ produceResponse.names →
        member.2.skip = .ok () := fun member listed unknown =>
      others member listed (by simpa [Shape.names, produceResponse] using unknown)
    have offers : ∀ name ∈ produceResponse.names,
        produceResponse.Offers (deepest - 1) named produceResponse.blank name := by
      intro name listed
      have called : name = "offsets" := by
        simpa [Shape.names, produceResponse] using listed
      subst called
      exact ProduceResponse.keeps_offsets.offers given
    obtain ⟨record, read, renders⟩ :=
      Shape.exists_read ProduceResponse.regular consists skipped offers
    have same : record = offsets := renders.part_eq ProduceResponse.keeps_offsets (by decide) given
    exact ⟨record, read, by rw [same]⟩

section Publications

variable {topic : Topic} {updates : List Update} {network : Network} {body : Octets}
  {entries : List Produced}

theorem run_publish_of_response (some_ : updates ≠ [])
    (welcomes : network.Welcomes (topic.request updates) body)
    (response : IsResponse (Document.ofOctets body) entries) :
    ((topic.publish updates).run network).1 = verdict entries := by
  obtain ⟨status, success, replies⟩ := welcomes
  have asked := run_ask_of_replies replies
  unfold Topic.request at asked
  unfold Topic.publish
  rw [if_neg (by simp [some_])]
  dsimp only
  rw [run_bind, asked]
  dsimp only [Topic.settle]
  rw [if_neg (by simp [success]), produced_eq_ok_iff.mpr response]
  dsimp only
  split
  · rename_i message same
    exact same.symm
  · rfl

/-- A body that is no response is mentioned once, and the updates count as accepted. -/
theorem run_publish_of_unreadable (some_ : updates ≠ [])
    (welcomes : network.Welcomes (topic.request updates) body)
    (unreadable : ∀ entries, ¬ IsResponse (Document.ofOctets body) entries) :
    ∃ text, (topic.publish updates).run network =
      (none, { network.heard (topic.request updates) with
        log := network.log ++ [.warn text] }) := by
  obtain ⟨status, success, replies⟩ := welcomes
  have asked := run_ask_of_replies replies
  unfold Topic.request at asked ⊢
  unfold Topic.publish
  rw [if_neg (by simp [some_])]
  dsimp only
  rw [run_bind, asked]
  dsimp only [Topic.settle]
  rw [if_neg (by simp [success])]
  cases read : produced body with
  | ok entries => exact absurd (produced_eq_ok_iff.mp read) (unreadable entries)
  | error fault => exact ⟨_, rfl⟩

/-- An error always comes from a response. -/
theorem run_publish_eq_some_iff {error : SinkError} (some_ : updates ≠ [])
    (welcomes : network.Welcomes (topic.request updates) body) :
    ((topic.publish updates).run network).1 = some error ↔
      ∃ entries, IsResponse (Document.ofOctets body) entries ∧ Decides entries (some error) := by
  constructor
  · intro failed
    by_contra none_
    have unreadable : ∀ entries, ¬ IsResponse (Document.ofOctets body) entries := by
      intro entries response
      rw [run_publish_of_response some_ welcomes response] at failed
      exact none_ ⟨entries, response, verdict_eq_iff.mp failed⟩
    obtain ⟨text, ran⟩ := run_publish_of_unreadable some_ welcomes unreadable
    rw [ran] at failed
    cases failed
  · rintro ⟨entries, response, decides⟩
    rw [run_publish_of_response some_ welcomes response]
    exact verdict_eq_iff.mpr decides

theorem run_publish_eq_none_iff (some_ : updates ≠ [])
    (welcomes : network.Welcomes (topic.request updates) body) :
    ((topic.publish updates).run network).1 = none ↔
      ∀ entries, IsResponse (Document.ofOctets body) entries →
        ∀ entry ∈ entries, entry.errorCode = none := by
  constructor
  · intro accepted entries response
    rw [run_publish_of_response some_ welcomes response] at accepted
    cases verdict_eq_iff.mp accepted with
    | accepted clean => exact clean
  · intro clean
    by_cases readable : ∃ entries, IsResponse (Document.ofOctets body) entries
    · obtain ⟨entries, response⟩ := readable
      rw [run_publish_of_response some_ welcomes response]
      exact verdict_eq_iff.mpr (.accepted (clean entries response))
    · obtain ⟨text, ran⟩ := run_publish_of_unreadable some_ welcomes
        fun entries response => readable ⟨entries, response⟩
      rw [ran]

/-- An entry that is refused for good is the end of it, whatever stands before it. -/
theorem isLast_of_fatal (some_ : updates ≠ [])
    (welcomes : network.Welcomes (topic.request updates) body)
    (response : IsResponse (Document.ofOctets body) entries)
    (fatal : ∃ entry ∈ entries, entry.isFatal = true) :
    ∃ error, ((topic.publish updates).run network).1 = some error ∧
      (Failure.sink error).IsLast := by
  obtain ⟨entry, member, refused⟩ := fatal
  rw [run_publish_of_response some_ welcomes response]
  have decides := decides_verdict entries
  generalize verdict entries = outcome at decides
  cases decides with
  | rejected worst text => exact ⟨_, rfl, Failure.isLast_of_lasting rfl⟩
  | transient _ _ bearable => exact absurd refused (List.find?_eq_none.mp bearable entry member)
  | accepted clean =>
    rw [not_isFatal_of_clean (clean entry member)] at refused
    cases refused

end Publications

/-- Updates are published, and the answer is a success with a whole body. The publication is
rejected exactly if the body is a response with an entry that is refused for good, and says what the
first such entry says; it may be tried again exactly if none is, but some may pass later; otherwise
it is accepted. So the order of the entries does not matter for which of the three it is, an entry
that is refused for good keeps the shard from ever publishing again, and a body that is no response
is mentioned in one warning. -/
theorem publish_classified {topic : Topic} {updates : List Update} {network : Network}
    {body : Octets} (some_ : updates ≠ [])
    (welcomes : network.Welcomes (topic.request updates) body) :
    let ended := (topic.publish updates).run network
    let document := Document.ofOctets body
    (∀ text, ended.1 = some (.rejected text) ↔ ∃ entries entry, IsResponse document entries ∧
      entries.find? Produced.isFatal = some entry ∧ entry.Explains text) ∧
    (∀ text, ended.1 = some (.transient text) ↔ ∃ entries entry, IsResponse document entries ∧
      entries.find? Produced.isFatal = none ∧
      entries.find? Produced.isRetriable = some entry ∧ entry.Explains text) ∧
    (ended.1 = none ↔ ∀ entries, IsResponse document entries →
      ∀ entry ∈ entries, entry.errorCode = none) ∧
    (∀ (other : Network) (body' : Octets) (entries others : List Produced),
      other.Welcomes (topic.request updates) body' → IsResponse document entries →
      IsResponse (Document.ofOctets body') others → entries.Perm others →
      ((topic.publish updates).run other).1.map SinkError.isRetryable =
        ended.1.map SinkError.isRetryable) ∧
    (∀ entries, IsResponse document entries → (∃ entry ∈ entries, entry.isFatal = true) →
      ∃ error, ended.1 = some error ∧ (Failure.sink error).IsLast) ∧
    ((∀ entries, ¬ IsResponse document entries) →
      ended.1 = none ∧ ∃ text, ended.2.log = network.log ++ [.warn text]) := by
  intro ended document
  refine ⟨fun text => ⟨fun failed => ?_, ?_⟩, fun text => ⟨fun failed => ?_, ?_⟩,
    run_publish_eq_none_iff some_ welcomes,
    fun other body' entries others welcome response again order => ?_,
    fun entries => isLast_of_fatal some_ welcomes, fun unreadable => ?_⟩
  · obtain ⟨entries, response, decides⟩ := (run_publish_eq_some_iff some_ welcomes).mp failed
    cases decides with
    | rejected entry _ worst explained => exact ⟨entries, entry, response, worst, explained⟩
  · rintro ⟨entries, entry, response, worst, explained⟩
    exact (run_publish_eq_some_iff some_ welcomes).mpr
      ⟨entries, response, .rejected entry text worst explained⟩
  · obtain ⟨entries, response, decides⟩ := (run_publish_eq_some_iff some_ welcomes).mp failed
    cases decides with
    | transient entry _ bearable first explained =>
      exact ⟨entries, entry, response, bearable, first, explained⟩
  · rintro ⟨entries, entry, response, bearable, first, explained⟩
    exact (run_publish_eq_some_iff some_ welcomes).mpr
      ⟨entries, response, .transient entry text bearable first explained⟩
  · have here : ended.1 = verdict entries := run_publish_of_response some_ welcomes response
    rw [run_publish_of_response some_ welcome again, here]
    exact (isRetryable_verdict_of_perm order).symm
  · obtain ⟨text, ran⟩ := run_publish_of_unreadable some_ welcomes unreadable
    have same : ended = _ := ran
    rw [same]
    exact ⟨rfl, text, rfl⟩

/-- An answer that would have one update sent again, and refuses another for good. -/
def harshBody : Octets :=
  "\x7b\"offsets\":[\x7b\"error\":\"later\",\"error_code\":2\x7d,[3,null],[]]\x7d".toUTF8.toList

def harsh : Network := { flaky with answers := [⟨.respond ⟨200⟩ harshBody, none⟩] }

def counts : Topic := flakyProxy.topic "counts" none

theorem harsh_rejected :
    harsh.Welcomes (counts.request [⟨"sea", 1⟩]) harshBody ∧
      ((counts.publish [⟨"sea", 1⟩]).run harsh).1 = some (.rejected "error code 3") := by
  have welcomes : harsh.Welcomes (counts.request [⟨"sea", 1⟩]) harshBody :=
    ⟨⟨200⟩, by decide, by decide +kernel, rfl⟩
  have read : (produced harshBody).toOption =
      some [⟨some 2, some "later"⟩, ⟨some 3, none⟩, ⟨none, none⟩] := by decide +kernel
  refine ⟨welcomes, ?_⟩
  cases entries : produced harshBody with
  | error fault =>
    rw [entries] at read
    cases read
  | ok found =>
    rw [entries] at read
    cases Option.some.inj read
    have response := produced_eq_ok_iff.mp entries
    have classified := publish_classified (by simp) welcomes
    exact (classified.1 "error code 3").mpr ⟨_, _, response, rfl, 3, rfl, rfl⟩

end WordTally.Proxy
