import Mathlib.Data.List.Basic
import WordTally.Feed

set_option autoImplicit false

namespace WordTally.Feed

/-- What happens to a feed, with what comes of it. Each feeder has a number. -/
inductive Event where
  | sent (feeder : Nat) (record : RawRecord) (taken : Bool)
  | cloned (feeder copy : Nat)
  | dropped (feeder : Nat)
  | polled (taken : Taken)
  /-- The source is dropped. -/
  | detached

@[simp]
def Event.accepted : Event → List RawRecord
  | .sent _ record true => [record]
  | _ => []

@[simp]
def Event.delivered : Event → List RawRecord
  | .polled (.batch records) => records
  | _ => []

@[simp]
def Event.feedersAfter (feeders : List Nat) : Event → List Nat
  | .cloned _ copy => copy :: feeders
  | .dropped feeder => feeders.erase feeder
  | _ => feeders

abbrev History := List Event

namespace History

def accepted (history : History) : List RawRecord := history.flatMap Event.accepted

def delivered (history : History) : List RawRecord := history.flatMap Event.delivered

/-- The feeders that are left. A feed begins with one. -/
def feeders (history : History) : List Nat := history.foldl Event.feedersAfter [0]

def Attached (history : History) : Prop := Event.detached ∉ history

variable (history : History) (event : Event)

@[simp]
theorem accepted_concat : accepted (history ++ [event]) = accepted history ++ event.accepted := by
  simp [accepted]

@[simp]
theorem delivered_concat :
    delivered (history ++ [event]) = delivered history ++ event.delivered := by
  simp [delivered]

@[simp]
theorem feeders_concat : feeders (history ++ [event]) = event.feedersAfter (feeders history) := by
  simp [feeders]

@[simp]
theorem attached_concat :
    Attached (history ++ [event]) ↔ Attached history ∧ event ≠ .detached := by
  simp [Attached, eq_comm]

end History

/-- One thing that can happen after a history. Only a feeder that is left can send, be cloned or be
dropped, and the source answers polls until it is dropped. -/
inductive Step (history : History) (feed : Feed) : Event → Feed → Prop where
  | send {feeder : Nat} (record : RawRecord) (there : feeder ∈ history.feeders) :
      Step history feed (.sent feeder record (feed.send record).1) (feed.send record).2
  | sendLine {feeder : Nat} (partition offset : Nat) (line : String)
      (there : feeder ∈ history.feeders) :
      Step history feed
        (.sent feeder (.ofLine partition offset line) (feed.sendLine partition offset line).1)
        (feed.sendLine partition offset line).2
  | clone {feeder copy : Nat} (there : feeder ∈ history.feeders) (fresh : copy ∉ history.feeders) :
      Step history feed (.cloned feeder copy) feed.cloneFeeder
  | drop {feeder : Nat} (there : feeder ∈ history.feeders) :
      Step history feed (.dropped feeder) feed.dropFeeder
  | poll (attached : history.Attached) : Step history feed (.polled feed.poll.1) feed.poll.2
  | detach (attached : history.Attached) : Step history feed .detached feed.dropSource

/-- A feed from its beginning, with all that has happened to it. -/
inductive Run : History → Feed → Prop where
  | start : Run [] new
  | step {history : History} {before after : Feed} {event : Event} (earlier : Run history before)
      (taken : Step history before event after) : Run (history ++ [event]) after

/-- Whatever happened, happened to a feed with the history before it. -/
theorem Run.before {earlier later : History} {event : Event} {feed : Feed}
    (run : Run (earlier ++ event :: later) feed) :
    ∃ before after, Run earlier before ∧ Step earlier before event after := by
  generalize same : earlier ++ event :: later = history at run
  induction run generalizing later with
  | start => simp at same
  | @step history before after last run taken ih =>
    rcases List.eq_nil_or_concat later with rfl | ⟨middle, newest, rfl⟩
    · obtain ⟨rfl, final⟩ := List.append_inj' same rfl
      cases final
      exact ⟨before, after, run, taken⟩
    · have longer : earlier ++ event :: middle ++ [newest] = history ++ [last] := by
        rw [← same, List.concat_eq_append, List.append_assoc, List.cons_append]
      exact ih (List.append_inj' longer rfl).1

theorem Run.beginning {earlier later : History} {feed : Feed} (run : Run (earlier ++ later) feed) :
    ∃ before, Run earlier before := by
  cases later with
  | nil => exact ⟨feed, by rwa [List.append_nil] at run⟩
  | cons event rest =>
    obtain ⟨before, -, earlier, -⟩ := run.before
    exact ⟨before, earlier⟩

/-- The feed counts the feeders that are left, and while its source is there it holds what was
taken and not yet given. -/
structure Follows (feed : Feed) (history : History) : Prop where
  feeders_eq : feed.feeders = history.feeders.length
  attached_iff : feed.attached = true ↔ history.Attached
  accepted_eq : history.Attached → history.accepted = history.delivered ++ feed.queue
  delivered_prefix : history.delivered <+: history.accepted

variable {history : History} {feed after : Feed} {event : Event}

theorem follows_new : new.Follows [] where
  feeders_eq := rfl
  attached_iff := by simp [new, History.Attached]
  accepted_eq _ := rfl
  delivered_prefix := List.prefix_rfl

theorem Follows.send (follows : feed.Follows history) (feeder : Nat) (record : RawRecord) :
    (feed.send record).2.Follows (history ++ [.sent feeder record (feed.send record).1]) := by
  cases attached : feed.attached with
  | true =>
    have queued := follows.accepted_eq (follows.attached_iff.mp attached)
    have taken : feed.send record = (true, { feed with queue := feed.queue ++ [record] }) :=
      if_pos attached
    rw [taken]
    constructor
    · simpa using follows.feeders_eq
    · simpa using follows.attached_iff
    · simp [queued]
    · simpa using follows.delivered_prefix.trans (List.prefix_append _ _)
  | false =>
    have refused : feed.send record = (false, feed) := if_neg (by simp [attached])
    rw [refused]
    constructor
    · simpa using follows.feeders_eq
    · simpa using follows.attached_iff
    · simpa using follows.accepted_eq
    · simpa using follows.delivered_prefix

theorem Follows.clone (follows : feed.Follows history) {feeder : Nat} (copy : Nat)
    (there : feeder ∈ history.feeders) :
    feed.cloneFeeder.Follows (history ++ [.cloned feeder copy]) := by
  have left : feed.feeders ≠ 0 := by
    rw [follows.feeders_eq]
    exact Nat.ne_of_gt (List.length_pos_of_mem there)
  have copied : feed.cloneFeeder = { feed with feeders := feed.feeders + 1 } := if_neg left
  rw [copied]
  constructor
  · simp [follows.feeders_eq]
  · simpa using follows.attached_iff
  · simpa using follows.accepted_eq
  · simpa using follows.delivered_prefix

theorem Follows.drop (follows : feed.Follows history) {feeder : Nat}
    (there : feeder ∈ history.feeders) :
    feed.dropFeeder.Follows (history ++ [.dropped feeder]) := by
  constructor
  · simp [dropFeeder, follows.feeders_eq, List.length_erase_of_mem there]
  · simpa [dropFeeder] using follows.attached_iff
  · simpa [dropFeeder] using follows.accepted_eq
  · simpa using follows.delivered_prefix

theorem poll_of_empty (empty : feed.queue = []) :
    feed.poll = (if feed.feeders = 0 then .endOfStream else .pending, feed) := by
  simp [Feed.poll, empty]

theorem fill_eq (batch queue : List RawRecord) : fill batch queue = (batch ++ queue, []) := by
  induction queue generalizing batch with
  | nil => rw [fill, List.append_nil]
  | cons record queue ih => rw [fill, ih, List.append_assoc, List.singleton_append]

/-- A batch takes everything that is queued. -/
theorem poll_of_waiting (waiting : feed.queue ≠ []) :
    feed.poll = (.batch feed.queue, { feed with queue := [] }) := by
  obtain ⟨first, queue, queued⟩ := List.exists_cons_of_ne_nil waiting
  rw [Feed.poll, queued]
  dsimp only
  rw [fill_eq, List.singleton_append]

theorem Follows.poll (follows : feed.Follows history) (attached : history.Attached) :
    feed.poll.2.Follows (history ++ [.polled feed.poll.1]) := by
  by_cases empty : feed.queue = []
  · have nothing : (Event.polled feed.poll.1).delivered = [] := by
      rw [poll_of_empty empty]
      dsimp only
      split <;> rfl
    rw [poll_of_empty empty] at nothing ⊢
    constructor
    · simpa using follows.feeders_eq
    · simpa using follows.attached_iff
    · rw [History.accepted_concat, History.delivered_concat, nothing]
      simpa using follows.accepted_eq
    · rw [History.accepted_concat, History.delivered_concat, nothing]
      simpa using follows.delivered_prefix
  · rw [poll_of_waiting empty]
    constructor
    · simpa using follows.feeders_eq
    · simpa using follows.attached_iff
    · simpa using follows.accepted_eq
    · simp [follows.accepted_eq attached]

theorem Follows.detach (follows : feed.Follows history) :
    feed.dropSource.Follows (history ++ [.detached]) := by
  constructor
  · simpa [dropSource] using follows.feeders_eq
  · simp [dropSource]
  · simp
  · simpa using follows.delivered_prefix

theorem Follows.step (follows : feed.Follows history) (taken : Step history feed event after) :
    after.Follows (history ++ [event]) := by
  cases taken with
  | send record there => exact follows.send _ record
  | sendLine partition offset line there => exact follows.send _ (.ofLine partition offset line)
  | clone there fresh => exact follows.clone _ there
  | drop there => exact follows.drop there
  | poll attached => exact follows.poll attached
  | detach attached => exact follows.detach

theorem Run.follows (run : Run history feed) : feed.Follows history := by
  induction run with
  | start => exact follows_new
  | step _ taken ih => exact ih.step taken

theorem Step.sent_iff {feeder : Nat} {record : RawRecord} {told : Bool}
    (taken : Step history feed (.sent feeder record told) after) (follows : feed.Follows history) :
    told = true ↔ history.Attached := by
  have told_iff : ∀ record, (feed.send record).1 = true ↔ history.Attached := by
    intro record
    rw [← follows.attached_iff, Feed.send]
    split <;> simp_all
  cases taken with
  | send record there => exact told_iff record
  | sendLine partition offset line there => exact told_iff (.ofLine partition offset line)

/-- What a poll gives, told from the history alone. -/
inductive Answers (history : History) : Taken → Prop where
  | batch {records : List RawRecord} (waiting : records ≠ [])
      (all : history.accepted = history.delivered ++ records) : Answers history (.batch records)
  | pending {feeder : Nat} (there : feeder ∈ history.feeders)
      (given : history.accepted = history.delivered) : Answers history .pending
  | endOfStream (gone : history.feeders = []) (given : history.accepted = history.delivered) :
      Answers history .endOfStream

theorem Step.answers {answer : Taken} (taken : Step history feed (.polled answer) after)
    (follows : feed.Follows history) : Answers history answer := by
  cases taken with
  | poll attached =>
    have queued := follows.accepted_eq attached
    have counted := follows.feeders_eq
    by_cases empty : feed.queue = []
    · rw [empty, List.append_nil] at queued
      rw [poll_of_empty empty]
      cases left : history.feeders with
      | nil =>
        have none_left : feed.feeders = 0 := by rw [counted, left, List.length_nil]
        rw [if_pos none_left]
        exact .endOfStream left queued
      | cons feeder others =>
        have some_left : feed.feeders ≠ 0 := by
          rw [counted, left]
          exact Nat.succ_ne_zero _
        rw [if_neg some_left]
        exact .pending (left ▸ List.mem_cons_self) queued
    · rw [poll_of_waiting empty]
      exact .batch empty queued

namespace Answers

/-- Exactly one answer is right at any time. -/
theorem eq_iff {answer other : Taken} (right : Answers history answer) :
    answer = other ↔ Answers history other := by
  constructor
  · rintro rfl
    exact right
  · intro another
    cases right <;> cases another <;> simp_all

theorem batch_iff {records : List RawRecord} : Answers history (.batch records) ↔
    records ≠ [] ∧ history.accepted = history.delivered ++ records := by
  constructor
  · intro right
    cases right with
    | batch waiting all => exact ⟨waiting, all⟩
  · rintro ⟨waiting, all⟩
    exact .batch waiting all

theorem endOfStream_iff : Answers history .endOfStream ↔
    history.feeders = [] ∧ history.accepted = history.delivered := by
  constructor
  · intro right
    cases right with
    | endOfStream gone given => exact ⟨gone, given⟩
  · rintro ⟨gone, given⟩
    exact .endOfStream gone given

theorem pending_iff : Answers history .pending ↔
    history.feeders ≠ [] ∧ history.accepted = history.delivered := by
  constructor
  · intro right
    cases right with
    | pending there given => exact ⟨List.ne_nil_of_mem there, given⟩
  · rintro ⟨left, given⟩
    exact .pending (List.head_mem left) given

end Answers

/-- A feed is a queue between its feeders and its source.

At any time the source has given a beginning of what was taken from the feeders, in the order in
which it was sent. A record is taken just in case the source is still there. A poll gives everything
that was taken and not yet given, if there is anything; if not, the stream is at its end just in case
no feeder is left, and otherwise the poll waits. -/
theorem Run.gives_what_was_sent (run : Run history feed) :
    (∀ earlier later, history = earlier ++ later →
      History.delivered earlier <+: History.accepted earlier) ∧
    (∀ earlier later feeder record told, history = earlier ++ .sent feeder record told :: later →
      (told = true ↔ Event.detached ∉ earlier)) ∧
    ∀ earlier later answer, history = earlier ++ .polled answer :: later →
      (∀ records, answer = .batch records ↔
        records ≠ [] ∧ History.accepted earlier = History.delivered earlier ++ records) ∧
      (answer = .endOfStream ↔
        History.feeders earlier = [] ∧ History.accepted earlier = History.delivered earlier) ∧
      (answer = .pending ↔
        History.feeders earlier ≠ [] ∧ History.accepted earlier = History.delivered earlier) := by
  refine ⟨?_, ?_, ?_⟩
  · rintro earlier later rfl
    obtain ⟨before, earlierRun⟩ := run.beginning
    exact earlierRun.follows.delivered_prefix
  · rintro earlier later feeder record told rfl
    obtain ⟨before, after, earlierRun, taken⟩ := run.before
    exact taken.sent_iff earlierRun.follows
  · rintro earlier later answer rfl
    obtain ⟨before, after, earlierRun, taken⟩ := run.before
    have right := taken.answers earlierRun.follows
    exact ⟨fun _ => right.eq_iff.trans Answers.batch_iff,
      right.eq_iff.trans Answers.endOfStream_iff, right.eq_iff.trans Answers.pending_iff⟩

def handover : History :=
  [.sent 0 (.ofLine 0 0 "a") true, .cloned 0 1, .dropped 0, .sent 1 (.ofLine 0 1 "b") true,
    .dropped 1, .polled (.batch [.ofLine 0 0 "a", .ofLine 0 1 "b"]), .polled .endOfStream]

theorem run_handover : Run handover ⟨[], 0, true⟩ := by
  have sent : Run (handover.take 1) ⟨[.ofLine 0 0 "a"], 1, true⟩ :=
    .step .start (.sendLine 0 0 "a" (by decide))
  have cloned : Run (handover.take 2) ⟨[.ofLine 0 0 "a"], 2, true⟩ :=
    .step sent (.clone (by decide) (by decide))
  have dropped : Run (handover.take 3) ⟨[.ofLine 0 0 "a"], 1, true⟩ :=
    .step cloned (.drop (by decide))
  have both : Run (handover.take 4) ⟨[.ofLine 0 0 "a", .ofLine 0 1 "b"], 1, true⟩ :=
    .step dropped (.sendLine 0 1 "b" (by decide))
  have gone : Run (handover.take 5) ⟨[.ofLine 0 0 "a", .ofLine 0 1 "b"], 0, true⟩ :=
    .step both (.drop (by decide))
  have given : Run (handover.take 6) ⟨[], 0, true⟩ :=
    .step gone (.poll (by simp [History.Attached, handover]))
  exact .step given (.poll (by simp [History.Attached, handover]))

/-- Although no feeder is left when the source is polled first, the stream ends only after all was
given. -/
theorem handover_gives_both :
    Run handover ⟨[], 0, true⟩ ∧
      History.delivered handover = [.ofLine 0 0 "a", .ofLine 0 1 "b"] ∧
      History.feeders (handover.take 5) = [] ∧
      History.accepted (handover.take 5) ≠ History.delivered (handover.take 5) ∧
      History.accepted (handover.take 6) = History.delivered (handover.take 6) := by
  obtain ⟨-, -, polls⟩ := run_handover.gives_what_was_sent
  have batch := polls (handover.take 5) [.polled .endOfStream] _ rfl
  have ended := polls (handover.take 6) [] _ rfl
  exact ⟨run_handover, rfl, rfl, fun given => absurd (batch.2.1.mpr ⟨rfl, given⟩) nofun,
    (ended.2.1.mp rfl).2⟩

end WordTally.Feed
