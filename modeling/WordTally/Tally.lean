/-
Cumulative counts of words.

A tally lists each word once, in ascending order of code points (which is also the order of the
UTF-8 encodings), so two tallies that give every word the same count are equal. Counts only grow:
counting adds one, and merging keeps the larger count.
-/

set_option autoImplicit false

namespace WordTally

/-- The count of a word at the moment it was counted. -/
structure Update where
  word : String
  count : Nat
  deriving DecidableEq, Repr, Inhabited

namespace Entries

/-- Sets the count of `word` to what `change` makes of its present count. -/
def alter (word : String) (change : Option Nat → Nat) : List (String × Nat) → List (String × Nat)
  | [] => [(word, change none)]
  | (key, count) :: rest =>
    if word < key then (word, change none) :: (key, count) :: rest
    else if word = key then (key, change (some count)) :: rest
    else (key, count) :: alter word change rest

def Ascending (entries : List (String × Nat)) : Prop :=
  entries.Pairwise fun a b => a.1 < b.1

theorem mem_alter {word : String} {change : Option Nat → Nat} {entry : String × Nat}
    {entries : List (String × Nat)} (member : entry ∈ alter word change entries) :
    entry.1 = word ∨ entry ∈ entries := by
  induction entries with
  | nil => simp_all [alter]
  | cons head rest ih =>
    obtain ⟨key, count⟩ := head
    simp only [alter] at member
    split at member
    · rcases List.mem_cons.1 member with rfl | tail
      · exact .inl rfl
      · exact .inr tail
    · split at member
      · rcases List.mem_cons.1 member with rfl | tail
        · exact .inl (by simp_all)
        · exact .inr (List.mem_cons_of_mem _ tail)
      · rcases List.mem_cons.1 member with rfl | tail
        · exact .inr List.mem_cons_self
        · exact (ih tail).imp_right (List.mem_cons_of_mem _)

theorem ascending_alter {entries : List (String × Nat)} (ascending : Ascending entries)
    (word : String) (change : Option Nat → Nat) : Ascending (alter word change entries) := by
  induction entries with
  | nil => simp [alter, Ascending]
  | cons head rest ih =>
    obtain ⟨key, count⟩ := head
    have below := (List.pairwise_cons.1 ascending).1
    have tail := ih (List.Pairwise.of_cons ascending)
    simp only [alter]
    split
    next less =>
      refine List.pairwise_cons.2 ⟨fun entry member => ?_, ascending⟩
      rcases List.mem_cons.1 member with rfl | later
      · exact less
      · exact String.lt_trans less (below entry later)
    next notLess =>
      split
      · exact List.pairwise_cons.2
          ⟨fun entry member => below entry member, List.Pairwise.of_cons ascending⟩
      next differ =>
        refine List.pairwise_cons.2 ⟨fun entry member => ?_, tail⟩
        rcases mem_alter member with rfl | old
        · exact Decidable.byContradiction fun notBelow =>
            differ (String.le_antisymm (String.not_lt.1 notBelow) (String.not_lt.1 notLess))
        · exact below entry old

def find? (word : String) : List (String × Nat) → Option Nat
  | [] => none
  | (key, count) :: rest => if key = word then some count else find? word rest

theorem find?_eq_none {word : String} {entries : List (String × Nat)}
    (absent : ∀ entry ∈ entries, entry.1 ≠ word) : find? word entries = none := by
  induction entries with
  | nil => rfl
  | cons head rest ih =>
    have := absent head List.mem_cons_self
    simp_all [find?]

theorem find?_alter {entries : List (String × Nat)} (ascending : Ascending entries)
    (word other : String) (change : Option Nat → Nat) :
    find? other (alter word change entries) =
      if other = word then some (change (find? word entries)) else find? other entries := by
  induction entries with
  | nil => simp [alter, find?, eq_comm]
  | cons head rest ih =>
    obtain ⟨key, count⟩ := head
    have below := (List.pairwise_cons.1 ascending).1
    have ih := ih (List.Pairwise.of_cons ascending)
    simp only [alter]
    split
    next less =>
      have absent : find? word ((key, count) :: rest) = none := by
        refine find?_eq_none fun entry member same => ?_
        rcases List.mem_cons.1 member with rfl | later
        · exact String.lt_irrefl _ (same ▸ less)
        · exact String.lt_irrefl _ (String.lt_trans less (same ▸ below entry later))
      by_cases same : other = word
      · rw [absent, same]
        simp [find?]
      · have : word ≠ other := fun h => same h.symm
        simp [find?, same, this]
    next =>
      split
      next same =>
        subst same
        by_cases same : other = word
        · simp [find?, same]
        · have : word ≠ other := fun h => same h.symm
          simp [find?, same, this]
      next differ =>
        have apart : key ≠ word := fun h => differ h.symm
        by_cases same : key = other
        · subst same
          simp [find?, apart]
        · simp [find?, same, ih, apart]

end Entries

/-- Words with their cumulative counts. -/
structure Tally where
  entries : List (String × Nat)
  ascending : Entries.Ascending entries
  deriving DecidableEq

namespace Tally

def empty : Tally := ⟨[], List.Pairwise.nil⟩

instance : Inhabited Tally := ⟨empty⟩

/-- The count of a word, if it was ever counted. -/
def get? (tally : Tally) (word : String) : Option Nat := Entries.find? word tally.entries

def size (tally : Tally) : Nat := tally.entries.length

def isEmpty (tally : Tally) : Bool := tally.entries.isEmpty

def toList (tally : Tally) : List (String × Nat) := tally.entries

def alter (tally : Tally) (word : String) (change : Option Nat → Nat) : Tally :=
  ⟨Entries.alter word change tally.entries, Entries.ascending_alter tally.ascending word change⟩

/-- Lifts the count of `word` to `count` where it is absent or lower. -/
def raise (tally : Tally) (word : String) (count : Nat) : Tally :=
  tally.alter word fun present => max (present.getD 0) count

/-- The tally of a list of counts; a word listed twice has the larger count. -/
def ofList (counts : List (String × Nat)) : Tally :=
  counts.foldl (fun tally entry => tally.raise entry.1 entry.2) empty

/-- Each word with the larger of its two counts. -/
def merge (tally other : Tally) : Tally :=
  other.entries.foldl (fun tally entry => tally.raise entry.1 entry.2) tally

def increment (tally : Tally) (word : String) : Tally :=
  tally.alter word fun present => present.getD 0 + 1

/-- Counts one word and tells its new count. -/
def count (tally : Tally) (word : String) : Update × Tally :=
  (⟨word, (tally.get? word).getD 0 + 1⟩, tally.increment word)

/-- Counts words in order, with one update for each. -/
def countAll (tally : Tally) : List String → List Update × Tally
  | [] => ([], tally)
  | word :: rest =>
    let (update, counted) := tally.count word
    let (updates, final) := counted.countAll rest
    (update :: updates, final)

@[simp]
theorem get?_alter (tally : Tally) (word other : String) (change : Option Nat → Nat) :
    (tally.alter word change).get? other =
      if other = word then some (change (tally.get? word)) else tally.get? other :=
  Entries.find?_alter tally.ascending word other change

@[simp]
theorem get?_empty (word : String) : empty.get? word = none := rfl

end Tally

end WordTally
