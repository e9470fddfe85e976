import WordTally.Proofs.Tally.Sharding

set_option autoImplicit false

namespace WordTally.Tally

def largest? (counts : List (String × Nat)) (word : String) : Option Nat :=
  ((counts.filter fun entry => entry.1 == word).map Prod.snd).max?

theorem largest?_cons (key word : String) (count : Nat) (rest : List (String × Nat)) :
    largest? ((key, count) :: rest) word =
      if key = word then Option.merge max (some count) (largest? rest word)
      else largest? rest word := by
  unfold largest?
  by_cases same : key = word
  · rw [if_pos same, List.filter_cons_of_pos (by simpa using same), List.map_cons,
      List.max?_cons]
    cases ((rest.filter fun entry => entry.1 == word).map Prod.snd).max? <;> rfl
  · rw [if_neg same, List.filter_cons_of_neg (by simpa using same)]

theorem get?_foldl_raise_list (counts : List (String × Nat)) (tally : Tally) (word : String) :
    (counts.foldl (fun tally entry => tally.raise entry.1 entry.2) tally).get? word =
      Option.merge max (tally.get? word) (largest? counts word) := by
  induction counts generalizing tally with
  | nil => simp [largest?]
  | cons head rest ih =>
    obtain ⟨key, count⟩ := head
    rw [List.foldl_cons, ih, get?_raise, largest?_cons]
    by_cases same : key = word
    · subst same
      cases tally.get? key <;> cases largest? rest key <;>
        simp [Nat.max_assoc]
    · have apart : word ≠ key := fun equal => same equal.symm
      rw [if_neg apart, if_neg same]

/-- A word has the largest of the counts that are listed for it. -/
theorem get?_ofList (counts : List (String × Nat)) (word : String) :
    (ofList counts).get? word = largest? counts word := by
  rw [ofList, get?_foldl_raise_list, get?_empty, Option.merge_none_left]

end WordTally.Tally
