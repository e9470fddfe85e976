import Mathlib.Data.List.Forall2

set_option autoImplicit false

namespace WordTally

variable {ε α β : Type}

theorem bind_eq_ok_iff {first : Except ε α} {next : α → Except ε β} {result : β} :
    first >>= next = .ok result ↔ ∃ value, first = .ok value ∧ next value = .ok result := by
  cases first with
  | error fault =>
    constructor
    · intro same
      cases same
    · rintro ⟨_, same, _⟩
      cases same
  | ok value =>
    constructor
    · intro same
      exact ⟨value, rfl, same⟩
    · rintro ⟨_, same, goesOn⟩
      cases same
      exact goesOn

theorem map_eq_ok_iff {first : Except ε α} {next : α → β} {result : β} :
    first.map next = .ok result ↔ ∃ value, first = .ok value ∧ next value = result := by
  cases first with
  | error fault => simp [Except.map]
  | ok value => simp [Except.map]

theorem mapM_eq_ok_iff {step : α → Except ε β} {items : List α} {results : List β} :
    items.mapM step = .ok results ↔
      List.Forall₂ (fun item result => step item = .ok result) items results := by
  induction items generalizing results with
  | nil =>
    rw [List.mapM_nil, List.forall₂_nil_left_iff]
    constructor
    · intro same
      cases same
      rfl
    · rintro rfl
      rfl
  | cons item items ih =>
    rw [List.mapM_cons, bind_eq_ok_iff, List.forall₂_cons_left_iff]
    constructor
    · rintro ⟨result, first, goesOn⟩
      obtain ⟨others, rest, same⟩ := bind_eq_ok_iff.mp goesOn
      cases same
      exact ⟨result, others, first, ih.mp rest, rfl⟩
    · rintro ⟨result, others, first, rest, rfl⟩
      exact ⟨result, first, bind_eq_ok_iff.mpr ⟨others, ih.mpr rest, rfl⟩⟩

theorem exists_of_mem_results {step : α → Except ε β} {items : List α} {results : List β}
    (each : List.Forall₂ (fun item result => step item = .ok result) items results) {result : β}
    (member : result ∈ results) : ∃ item ∈ items, step item = .ok result := by
  induction each with
  | nil => cases member
  | cons first _ ih =>
    rcases List.mem_cons.mp member with rfl | later
    · exact ⟨_, List.mem_cons_self, first⟩
    · obtain ⟨item, inside, same⟩ := ih later
      exact ⟨item, List.mem_cons_of_mem _ inside, same⟩

def failure? : Except ε α → Option ε
  | .ok _ => none
  | .error reason => some reason

theorem failure?_eq_some_iff {result : Except ε α} {reason : ε} :
    failure? result = some reason ↔ result = .error reason := by
  cases result <;> simp [failure?]

end WordTally
