set_option autoImplicit false

namespace WordTally.Unicode

structure Interval where
  first : Nat
  last : Nat

/-- Whether an interval of the table holds `n`. The table ascends, so the search ends at the first
interval that begins beyond `n`. -/
def covers : List Interval → Nat → Bool
  | [], _ => false
  | interval :: rest, n =>
    if n < interval.first then false
    else if n ≤ interval.last then true
    else covers rest n

@[simp]
theorem covers_nil (n : Nat) : covers [] n = false := rfl

theorem exists_interval_of_covers {table : List Interval} {n : Nat}
    (covered : covers table n = true) :
    ∃ interval ∈ table, interval.first ≤ n ∧ n ≤ interval.last := by
  induction table with
  | nil => simp at covered
  | cons interval rest ih =>
    simp only [covers] at covered
    split at covered
    · simp at covered
    · split at covered
      · exact ⟨interval, by simp, by omega, by omega⟩
      · obtain ⟨found, member, bounds⟩ := ih covered
        exact ⟨found, by simp [member], bounds⟩

end WordTally.Unicode
