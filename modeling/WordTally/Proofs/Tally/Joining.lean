import WordTally.Proofs.Tally.Listing
import Mathlib.Order.BoundedOrder.Lattice

set_option autoImplicit false

namespace WordTally.Tally

variable {tally other later : Tally} {word : String} {count : Nat}
  {counts listed : List (String × Nat)}

instance : LE Tally where
  le tally later := ∀ word, tally.get? word ≤ later.get? word

theorem exists_of_le (grown : tally ≤ later) (found : tally.get? word = some count) :
    ∃ more, later.get? word = some more ∧ count ≤ more := by
  have here := grown word
  rw [found] at here
  cases there : later.get? word with
  | none =>
    rw [there] at here
    exact absurd here Option.not_some_le_none
  | some more =>
    rw [there, Option.some_le_some] at here
    exact ⟨more, rfl, here⟩

theorem le_of_found (grown : ∀ word count, tally.get? word = some count →
    ∃ more, later.get? word = some more ∧ count ≤ more) : tally ≤ later := by
  intro word
  cases found : tally.get? word with
  | none => exact Option.none_le
  | some count =>
    obtain ⟨more, there, larger⟩ := grown word count found
    rw [there, Option.some_le_some]
    exact larger

instance : PartialOrder Tally where
  le_refl tally := le_of_found fun _ count found => ⟨count, found, Nat.le_refl count⟩
  le_trans tally other later first second := by
    refine le_of_found fun word count found => ?_
    obtain ⟨more, there, larger⟩ := exists_of_le first found
    obtain ⟨most, last, largest⟩ := exists_of_le second there
    exact ⟨most, last, Nat.le_trans larger largest⟩
  le_antisymm tally other below above := by
    ext1 word
    cases found : tally.get? word with
    | none =>
      have nothing := above word
      rw [found, Option.le_none] at nothing
      exact nothing.symm
    | some count =>
      obtain ⟨more, there, larger⟩ := exists_of_le below found
      obtain ⟨back, again, smaller⟩ := exists_of_le above there
      rw [found, Option.some.injEq] at again
      rw [there, Option.some.injEq]
      omega

theorem merge_le_iff : tally.merge other ≤ later ↔ tally ≤ later ∧ other ≤ later := by
  have each : ∀ word, (tally.merge other).get? word ≤ later.get? word ↔
      tally.get? word ≤ later.get? word ∧ other.get? word ≤ later.get? word := by
    intro word
    rw [get?_merge]
    exact Option.merge_le_iff fun _ _ _ => Nat.max_le
  exact ⟨fun grown => ⟨fun word => ((each word).mp (grown word)).1,
    fun word => ((each word).mp (grown word)).2⟩,
    fun grown word => (each word).mpr ⟨grown.1 word, grown.2 word⟩⟩

instance : SemilatticeSup Tally where
  sup := merge
  le_sup_left _ _ := (merge_le_iff.mp (le_refl _)).1
  le_sup_right _ _ := (merge_le_iff.mp (le_refl _)).2
  sup_le _ _ _ first second := merge_le_iff.mpr ⟨first, second⟩

instance : OrderBot Tally where
  bot := empty
  bot_le _ := fun _ => Option.none_le

theorem merge_comm (tally other : Tally) : tally.merge other = other.merge tally :=
  sup_comm tally other

theorem merge_assoc (tally other later : Tally) :
    (tally.merge other).merge later = tally.merge (other.merge later) :=
  sup_assoc tally other later

theorem merge_self (tally : Tally) : tally.merge tally = tally := sup_idem tally

theorem merge_empty (tally : Tally) : tally.merge empty = tally := sup_bot_eq tally

theorem empty_merge (tally : Tally) : empty.merge tally = tally := bot_sup_eq tally

theorem mem_countsOf_iff :
    count ∈ (counts.filter fun entry => entry.1 == word).map Prod.snd ↔ (word, count) ∈ counts := by
  simp

/-- A word has the largest count that is listed for it. -/
theorem get?_ofList_eq_some_iff : (ofList counts).get? word = some count ↔
    (word, count) ∈ counts ∧ ∀ other, (word, other) ∈ counts → other ≤ count := by
  rw [get?_ofList, largest?, List.max?_eq_some_iff]
  simp only [mem_countsOf_iff]

example : (ofList [("sea", 3), ("foam", 0), ("sea", 5), ("sea", 3)]).toList =
    [("foam", 0), ("sea", 5)] := by decide

theorem get?_ofList_ne_none_iff :
    (ofList counts).get? word ≠ none ↔ word ∈ counts.map Prod.fst := by
  rw [get?_ofList, largest?, ne_eq, List.max?_eq_none_iff, List.map_eq_nil_iff,
    List.filter_eq_nil_iff, List.mem_map]
  simp only [beq_iff_eq, not_forall, not_not, exists_prop]

/-- Neither the order of the counts nor how often one is listed makes a difference. -/
theorem ofList_congr (same : ∀ entry, entry ∈ counts ↔ entry ∈ listed) :
    ofList counts = ofList listed := by
  ext1 word
  ext1 count
  rw [get?_ofList_eq_some_iff, get?_ofList_eq_some_iff]
  simp only [same]

theorem ofList_append (counts listed : List (String × Nat)) :
    ofList (counts ++ listed) = (ofList counts).merge (ofList listed) := by
  ext1 word
  rw [get?_merge, get?_ofList listed, ← get?_foldl_raise_list listed]
  unfold ofList
  rw [List.foldl_append]

/-- Merging is a join.

A tally has grown out of a merge just if it has grown out of both sides, so that merging is
commutative, associative and idempotent, and an empty tally adds nothing. A list of counts gives
each word that it lists the largest of its counts, whatever the order of the list and however often
it repeats them, and two lists in a row give the merge of what each of them gives. -/
theorem merge_is_join :
    (∀ tally other later : Tally, tally.merge other ≤ later ↔ tally ≤ later ∧ other ≤ later) ∧
      (∀ tally other : Tally, tally.merge other = other.merge tally) ∧
      (∀ tally other later : Tally,
        (tally.merge other).merge later = tally.merge (other.merge later)) ∧
      (∀ tally : Tally, tally.merge tally = tally) ∧
      (∀ tally : Tally, tally.merge empty = tally ∧ empty.merge tally = tally) ∧
      (∀ counts word count, (ofList counts).get? word = some count ↔
        (word, count) ∈ counts ∧ ∀ other, (word, other) ∈ counts → other ≤ count) ∧
      (∀ counts listed, (∀ entry, entry ∈ counts ↔ entry ∈ listed) →
        ofList counts = ofList listed) ∧
      ∀ counts listed, ofList (counts ++ listed) = (ofList counts).merge (ofList listed) :=
  ⟨fun _ _ _ => merge_le_iff, merge_comm, merge_assoc, merge_self,
    fun tally => ⟨merge_empty tally, empty_merge tally⟩, fun _ _ _ => get?_ofList_eq_some_iff,
    fun _ _ => ofList_congr, ofList_append⟩

end WordTally.Tally
