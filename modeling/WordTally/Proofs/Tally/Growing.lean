import WordTally.Proofs.Tally.Joining
import WordTally.Proofs.Text.Encoding
import WordTally.Text.Words

set_option autoImplicit false

namespace WordTally

namespace Entries

theorem find?_of_mem {word : String} {count : Nat} {entries : List (String × Nat)}
    (ascending : Ascending entries) (member : (word, count) ∈ entries) :
    find? word entries = some count := by
  induction entries with
  | nil => cases member
  | cons head rest ih =>
    obtain ⟨key, value⟩ := head
    obtain ⟨below, ordered⟩ := List.pairwise_cons.mp ascending
    rcases List.mem_cons.mp member with same | later
    · cases same
      exact if_pos rfl
    · have apart : key ≠ word := by
        rintro rfl
        exact String.lt_irrefl key (below _ later)
      rw [find?, if_neg apart]
      exact ih ordered later

end Entries

namespace Tally

variable {tally : Tally} {word : String} {count : Nat}

theorem get?_eq_some_iff : tally.get? word = some count ↔ (word, count) ∈ tally.toList :=
  ⟨Entries.mem_of_find?, Entries.find?_of_mem tally.ascending⟩

theorem mem_words_iff : word ∈ tally.toList.map Prod.fst ↔ tally.get? word ≠ none := by
  rw [Option.ne_none_iff_exists', List.mem_map]
  constructor
  · rintro ⟨⟨key, count⟩, listed, rfl⟩
    exact ⟨count, get?_eq_some_iff.mpr listed⟩
  · rintro ⟨count, found⟩
    exact ⟨(word, count), get?_eq_some_iff.mp found, rfl⟩

theorem pairwise_utf8 (tally : Tally) :
    tally.toList.Pairwise fun entry next => Text.utf8 entry.1 < Text.utf8 next.1 :=
  tally.ascending.imp fun before => Text.utf8_lt_iff.mpr before

theorem nodup_words (tally : Tally) : (tally.toList.map Prod.fst).Nodup := by
  refine List.pairwise_map.mpr (tally.ascending.imp fun before same => ?_)
  rw [same] at before
  exact String.lt_irrefl _ before

theorem getElem?_countAll (tally : Tally) {words : List String} {index : Nat}
    (found : words[index]? = some word) : (tally.countAll words).1[index]? =
      some ⟨word, (tally.get? word).getD 0 + (words.take (index + 1)).count word⟩ := by
  induction words generalizing tally index with
  | nil => cases found
  | cons head rest ih =>
    rw [countAll_cons]
    cases index with
    | zero =>
      cases found
      simp
    | succ index =>
      have inRest : rest[index]? = some word := found
      rw [List.getElem?_cons_succ, ih _ inRest, get?_increment, List.take_succ_cons]
      by_cases here : word = head
      · subst here
        rw [if_pos rfl, List.count_cons_self, Option.getD_some, Nat.add_assoc, Nat.add_comm 1]
      · rw [if_neg here, List.count_cons_of_ne (Ne.symm here)]

theorem getD_countAll (tally : Tally) (words : List String) (word : String) :
    ((tally.countAll words).2.get? word).getD 0 = (tally.get? word).getD 0 + words.count word := by
  rw [get?_countAll]
  split
  · rfl
  · rename_i absent
    rw [List.count_eq_zero_of_not_mem absent, Nat.add_zero]

theorem get?_countAll_ne_none_iff (words : List String) : (tally.countAll words).2.get? word ≠ none ↔
    tally.get? word ≠ none ∨ word ∈ words := by
  rw [get?_countAll]
  by_cases counted : word ∈ words <;> simp [counted]

theorem countAll_perm {words others : List String} (perm : words.Perm others) (tally : Tally) :
    (tally.countAll words).2 = (tally.countAll others).2 := by
  ext1 word
  rw [get?_countAll, get?_countAll]
  simp only [perm.count_eq, perm.mem_iff]

theorem le_countAll (tally : Tally) (words : List String) : tally ≤ (tally.countAll words).2 := by
  refine le_of_found fun word count found => ?_
  rw [get?_countAll, found]
  split
  · exact ⟨_, rfl, Nat.le_add_right count _⟩
  · exact ⟨count, rfl, Nat.le_refl count⟩

/-- Counting words one after the other is exact.

There is one update for each word, with the number of times that the word has occurred by then on
top of what the tally had for it. In the end each word has its former count and as many more as it
occurred, there are no words but the former ones and those that were counted, and the order in which
they were counted makes no difference. -/
theorem countAll_exact (tally : Tally) (words : List String) :
    (tally.countAll words).1.length = words.length ∧
      (∀ (index : Nat) (word : String), words[index]? = some word →
        (tally.countAll words).1[index]? =
          some ⟨word, (tally.get? word).getD 0 + (words.take (index + 1)).count word⟩) ∧
      (∀ word, ((tally.countAll words).2.get? word).getD 0 =
        (tally.get? word).getD 0 + words.count word) ∧
      (∀ word, word ∈ (tally.countAll words).2.toList.map Prod.fst ↔
        word ∈ tally.toList.map Prod.fst ∨ word ∈ words) ∧
      ∀ others, words.Perm others → (tally.countAll words).2 = (tally.countAll others).2 := by
  refine ⟨length_countAll tally words, fun index word found => getElem?_countAll tally found,
    getD_countAll tally words, fun word => ?_, fun others perm => countAll_perm perm tally⟩
  rw [mem_words_iff, mem_words_iff]
  exact get?_countAll_ne_none_iff words

inductive Work where
  | count (word : String)
  | countAll (words : List String)
  /-- The words of a text are counted. -/
  | countText (text : String)
  /-- The tally of a list of counts is merged in. -/
  | merge (counts : List (String × Nat))

def Work.words : Work → List String
  | .count word => [word]
  | .countAll words => words
  | .countText text => Text.words text
  | .merge counts => counts.map Prod.fst

def step (tally : Tally) : Work → Tally
  | .count word => (tally.count word).2
  | .countAll words => (tally.countAll words).2
  | .countText text => (tally.countAll (Text.words text)).2
  | .merge counts => tally.merge (ofList counts)

def run (tally : Tally) (works : List Work) : Tally := works.foldl step tally

theorem le_step (tally : Tally) (work : Work) : tally ≤ tally.step work := by
  cases work with
  | count word => exact le_countAll tally [word]
  | countAll words => exact le_countAll tally words
  | countText text => exact le_countAll tally (Text.words text)
  | merge counts => exact le_sup_left

theorem get?_step_ne_none_iff (work : Work) : (tally.step work).get? word ≠ none ↔
    tally.get? word ≠ none ∨ word ∈ work.words := by
  cases work with
  | count word => exact get?_countAll_ne_none_iff [word]
  | countAll words => exact get?_countAll_ne_none_iff words
  | countText text => exact get?_countAll_ne_none_iff (Text.words text)
  | merge counts =>
    rw [step, get?_merge, Work.words, ← get?_ofList_ne_none_iff, ne_eq, Option.merge_eq_none_iff]
    tauto

variable {works : List Work}

theorem run_append (tally : Tally) (works more : List Work) :
    tally.run (works ++ more) = (tally.run works).run more := List.foldl_append

theorem le_run (tally : Tally) (works : List Work) : tally ≤ tally.run works := by
  induction works generalizing tally with
  | nil => exact le_refl tally
  | cons work rest ih => exact (le_step tally work).trans (ih (tally.step work))

theorem get?_run_ne_none_iff : (tally.run works).get? word ≠ none ↔
    tally.get? word ≠ none ∨ ∃ work ∈ works, word ∈ work.words := by
  induction works generalizing tally with
  | nil => simp [run]
  | cons work rest ih =>
    change ((tally.step work).run rest).get? word ≠ none ↔ _
    rw [ih, get?_step_ne_none_iff, List.exists_mem_cons_iff, or_assoc]

/-- A tally at work stays in order and only grows.

Whatever the seed and the work, each word that came up is listed once, in the strictly ascending
order of the encodings, and what is looked up is what is listed. Between any two moments no word is
lost and no count goes down. -/
theorem run_listed_and_growing (seed : List (String × Nat)) (works : List Work) :
    ((ofList seed).run works).toList.Pairwise
        (fun entry next => Text.utf8 entry.1 < Text.utf8 next.1) ∧
      (((ofList seed).run works).toList.map Prod.fst).Nodup ∧
      (∀ word, word ∈ ((ofList seed).run works).toList.map Prod.fst ↔
        word ∈ seed.map Prod.fst ∨ ∃ work ∈ works, word ∈ work.words) ∧
      (∀ word count, ((ofList seed).run works).get? word = some count ↔
        (word, count) ∈ ((ofList seed).run works).toList) ∧
      ((ofList seed).run works).size = ((ofList seed).run works).toList.length ∧
      (((ofList seed).run works).isEmpty = true ↔ ((ofList seed).run works).toList = []) ∧
      ∀ sooner later, sooner ≤ later → ∀ word count,
        ((ofList seed).run (works.take sooner)).get? word = some count →
        ∃ more, ((ofList seed).run (works.take later)).get? word = some more ∧ count ≤ more := by
  refine ⟨pairwise_utf8 _, nodup_words _, fun word => ?_, fun word count => get?_eq_some_iff, rfl,
    List.isEmpty_iff, fun sooner later order word count found => ?_⟩
  · rw [mem_words_iff, get?_run_ne_none_iff, get?_ofList_ne_none_iff]
  · have parted : works.take later = works.take sooner ++ (works.take later).drop sooner := by
      conv_lhs => rw [← List.take_append_drop sooner (works.take later)]
      rw [List.take_take, Nat.min_eq_left order]
    refine exists_of_le ?_ found
    rw [parted, run_append]
    exact le_run _ _

end Tally

end WordTally
