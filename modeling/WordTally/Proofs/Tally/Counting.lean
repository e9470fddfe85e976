import WordTally.Tally
import WordTally.Text.Numeral
import Mathlib.Data.List.Chain
import Mathlib.Tactic.Common

set_option autoImplicit false

namespace WordTally

namespace Entries

theorem mem_of_find? {word : String} {count : Nat} {entries : List (String × Nat)}
    (found : find? word entries = some count) : (word, count) ∈ entries := by
  induction entries with
  | nil => simp [find?] at found
  | cons head rest ih =>
    obtain ⟨key, value⟩ := head
    simp only [find?] at found
    split at found
    · rename_i same
      cases found
      rw [same]
      exact List.mem_cons_self
    · exact List.mem_cons_of_mem _ (ih found)

theorem find?_of_below {key : String} {count : Nat} {rest : List (String × Nat)}
    (ascending : Ascending ((key, count) :: rest)) : find? key rest = none := by
  apply find?_eq_none
  intro entry member same
  have below := (List.pairwise_cons.mp ascending).1 entry member
  rw [same] at below
  exact String.lt_irrefl key below

/-- The first keys agree because each of them would otherwise stand behind the other. -/
theorem head_eq_of_find? {key other : String} {count value : Nat}
    {left right : List (String × Nat)} (leftAscending : Ascending ((key, count) :: left))
    (rightAscending : Ascending ((other, value) :: right))
    (same : ∀ word, find? word ((key, count) :: left) = find? word ((other, value) :: right)) :
    key = other := by
  by_cases equal : key = other
  · exact equal
  · have atKey : find? key right = some count := by
      have h := same key
      simpa [find?, Ne.symm equal] using h.symm
    have atOther : find? other left = some value := by
      have h := same other
      simpa [find?, equal] using h
    have behind := (List.pairwise_cons.mp rightAscending).1 _ (mem_of_find? atKey)
    have before := (List.pairwise_cons.mp leftAscending).1 _ (mem_of_find? atOther)
    exact absurd (String.lt_trans behind before) (String.lt_irrefl other)

theorem eq_of_find? {left right : List (String × Nat)} (leftAscending : Ascending left)
    (rightAscending : Ascending right) (same : ∀ word, find? word left = find? word right) :
    left = right := by
  induction left generalizing right with
  | nil =>
    cases right with
    | nil => rfl
    | cons head rest =>
      have h := same head.1
      simp [find?] at h
  | cons head rest ih =>
    obtain ⟨key, count⟩ := head
    cases right with
    | nil =>
      have h := same key
      simp [find?] at h
    | cons other others =>
      obtain ⟨otherKey, value⟩ := other
      have keys := head_eq_of_find? leftAscending rightAscending same
      subst keys
      have counts : count = value := by
        have h := same key
        simpa [find?] using h
      have rests : rest = others := by
        apply ih (List.Pairwise.of_cons leftAscending) (List.Pairwise.of_cons rightAscending)
        intro word
        by_cases here : key = word
        · subst here
          rw [find?_of_below leftAscending, find?_of_below rightAscending]
        · have h := same word
          simpa [find?, here] using h
      rw [counts, rests]

end Entries

namespace Tally

/-- A tally is known by the counts that it gives. -/
@[ext] theorem ext_get? {left right : Tally} (same : ∀ word, left.get? word = right.get? word) :
    left = right := by
  obtain ⟨leftEntries, leftAscending⟩ := left
  obtain ⟨rightEntries, rightAscending⟩ := right
  have entries := Entries.eq_of_find? leftAscending rightAscending same
  subst entries
  rfl

theorem get?_increment (tally : Tally) (word other : String) :
    (tally.increment word).get? other =
      if other = word then some ((tally.get? word).getD 0 + 1) else tally.get? other :=
  get?_alter tally word other _

@[simp] theorem countAll_nil (tally : Tally) : tally.countAll [] = ([], tally) := rfl

theorem countAll_cons (tally : Tally) (word : String) (rest : List String) :
    tally.countAll (word :: rest) =
      (⟨word, (tally.get? word).getD 0 + 1⟩ :: ((tally.increment word).countAll rest).1,
        ((tally.increment word).countAll rest).2) := rfl

theorem countAll_append (tally : Tally) (first second : List String) :
    tally.countAll (first ++ second) =
      ((tally.countAll first).1 ++ ((tally.countAll first).2.countAll second).1,
        ((tally.countAll first).2.countAll second).2) := by
  induction first generalizing tally with
  | nil => rfl
  | cons word rest ih => simp only [List.cons_append, countAll_cons, ih]

theorem countAll_concat (tally : Tally) (words : List String) (word : String) :
    tally.countAll (words ++ [word]) =
      ((tally.countAll words).1 ++ [((tally.countAll words).2.count word).1],
        ((tally.countAll words).2.count word).2) :=
  countAll_append tally words [word]

@[simp] theorem length_countAll (tally : Tally) (words : List String) :
    (tally.countAll words).1.length = words.length := by
  induction words generalizing tally with
  | nil => rfl
  | cons word rest ih => simp only [countAll_cons, List.length_cons, ih]

/-- Counting raises each word by the number of times it occurs, and touches no other. -/
theorem get?_countAll (tally : Tally) (words : List String) (word : String) :
    (tally.countAll words).2.get? word =
      if word ∈ words then some ((tally.get? word).getD 0 + words.count word)
      else tally.get? word := by
  induction words generalizing tally with
  | nil => simp
  | cons head rest ih =>
    rw [countAll_cons, ih, get?_increment]
    by_cases here : word = head
    · subst here
      by_cases later : word ∈ rest
      · simp only [later, ↓reduceIte, List.mem_cons, true_or, Option.getD_some,
          List.count_cons_self]
        congr 1
        omega
      · simp [later, List.count_eq_zero_of_not_mem later]
    · have apart : head ≠ word := fun same => here same.symm
      simp [here, List.count_cons_of_ne apart]

/-- What is counted for a class of words is the same in every tally that agrees about that class,
whatever else is counted in between. -/
theorem filter_countAll (chosen : String → Bool) (tally other : Tally) (words : List String)
    (agree : ∀ word, chosen word = true → tally.get? word = other.get? word) :
    (tally.countAll words).1.filter (fun update => chosen update.word) =
      (other.countAll (words.filter chosen)).1 := by
  induction words generalizing tally other with
  | nil => rfl
  | cons head rest ih =>
    by_cases picked : chosen head = true
    · have next : ∀ word, chosen word = true →
          (tally.increment head).get? word = (other.increment head).get? word := by
        intro word also
        rw [get?_increment, get?_increment, agree head picked, agree word also]
      simp only [countAll_cons, List.filter_cons, picked, ↓reduceIte, ih _ _ next,
        agree head picked]
    · have next : ∀ word, chosen word = true →
          (tally.increment head).get? word = other.get? word := by
        intro word also
        have apart : word ≠ head := by
          intro same
          rw [same] at also
          exact picked also
        rw [get?_increment, if_neg apart, agree word also]
      simp only [countAll_cons, List.filter_cons, picked, Bool.false_eq_true, ↓reduceIte,
        ih _ _ next]

/-- Every word can be counted in 64 bits, on top of its first count. Counts have no bound here, so
this is how far they are those of a counter of 64 bits. -/
def Fits (seed : Tally) (words : List String) : Prop :=
  ∀ word, (seed.get? word).getD 0 + words.count word ≤ Text.max64

section Fits

variable {seed : Tally} {words : List String}

end Fits

end Tally

end WordTally
