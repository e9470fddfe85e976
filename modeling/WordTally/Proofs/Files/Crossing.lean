import WordTally.Proofs.Files.Walking

set_option autoImplicit false

namespace WordTally

namespace Path

/-- One part further: a name leads down, and two dots lead back up, though not beyond the root. -/
def onward (place : Location) (part : String) : Location :=
  if part = self then place
  else if part = above then place.tail
  else part :: place

/-- The place that parts lead to from the root, if they lead anywhere. -/
def goal (parts : List String) : Location := parts.foldl onward []

/-- A path leads through a place, or to it. -/
def Crosses (parts : List String) (place : Location) : Prop :=
  ∃ front, front <+: parts ∧ goal front = place

/-- A path leads nowhere into the directory at a place. -/
def Avoids (parts : List String) (place : Location) : Prop :=
  ∀ other, Crosses parts other → ∀ name, ¬ name :: place <:+ other

variable {parts rest : List String} {place : Location}

theorem crosses_goal (parts : List String) : Crosses parts (goal parts) :=
  ⟨parts, List.prefix_refl parts, rfl⟩

theorem goal_concat (parts : List String) (part : String) :
    goal (parts ++ [part]) = onward (goal parts) part := by
  rw [goal, List.foldl_append]
  rfl

theorem foldl_onward_filter (rest : List String) (place : Location) :
    (rest.filter (· ≠ self)).foldl onward place = rest.foldl onward place := by
  induction rest generalizing place with
  | nil => rfl
  | cons part rest ih =>
    by_cases here : part = self
    · rw [List.filter_cons_of_neg (by simpa using here), List.foldl_cons, onward, if_pos here]
      exact ih place
    · rw [List.filter_cons_of_pos (by simpa using here)]
      exact ih (onward place part)

theorem exists_prefix_of_filter {keep : String → Bool} {front : List String}
    (begins : front <+: rest.filter keep) : ∃ whole, whole <+: rest ∧ whole.filter keep = front := by
  induction rest generalizing front with
  | nil => exact ⟨[], List.nil_prefix, (List.prefix_nil.mp begins).symm⟩
  | cons part rest ih =>
    by_cases kept : keep part = true
    · rw [List.filter_cons_of_pos kept] at begins
      rcases List.prefix_cons_iff.mp begins with rfl | ⟨front, rfl, inRest⟩
      · exact ⟨[], List.nil_prefix, rfl⟩
      · obtain ⟨whole, opening, same⟩ := ih inRest
        exact ⟨part :: whole, List.cons_prefix_cons.mpr ⟨rfl, opening⟩,
          by rw [List.filter_cons_of_pos kept, same]⟩
    · rw [List.filter_cons_of_neg kept] at begins
      obtain ⟨whole, opening, same⟩ := ih begins
      exact ⟨part :: whole, List.cons_prefix_cons.mpr ⟨rfl, opening⟩,
        by rw [List.filter_cons_of_neg kept, same]⟩

/-- The parts that lead nowhere may be left out. -/
theorem crosses_of_essential {front : List String} (begins : front <+: essential parts) :
    Crosses parts (goal front) := by
  cases parts with
  | nil => exact ⟨[], List.nil_prefix, by rw [List.prefix_nil.mp begins]⟩
  | cons part rest =>
    rcases List.prefix_cons_iff.mp begins with rfl | ⟨front, rfl, inRest⟩
    · exact ⟨[], List.nil_prefix, rfl⟩
    · obtain ⟨whole, opening, rfl⟩ := exists_prefix_of_filter inRest
      refine ⟨part :: whole, List.cons_prefix_cons.mpr ⟨rfl, opening⟩, ?_⟩
      exact (foldl_onward_filter whole _).symm

theorem goal_of_dots {dots : List String} (still : ∀ part ∈ dots, Disk.isDots part = true) :
    goal dots = [] := by
  induction dots with
  | nil => rfl
  | cons part dots ih =>
    obtain ⟨dot, others⟩ := List.forall_mem_cons.mp still
    have here : onward [] part = [] := by
      have up : part = self ∨ part = above := by simpa [Disk.isDots] using dot
      rcases up with rfl | rfl <;> rfl
    rw [goal, List.foldl_cons, here]
    exact ih others

theorem foldl_onward_of_level {names : List String} (level : above ∉ names) (place : Location) :
    names.foldl onward place = (names.filter (· ≠ self)).reverse ++ place := by
  induction names generalizing place with
  | nil => rfl
  | cons part rest ih =>
    have levelRest : above ∉ rest := fun member => level (List.mem_cons_of_mem _ member)
    have notUp : part ≠ above := fun same => level (same ▸ List.mem_cons_self)
    rw [List.foldl_cons, ih levelRest, onward]
    by_cases here : part = self
    · rw [if_pos here, List.filter_cons_of_neg (by simpa using here)]
    · rw [if_neg here, if_neg notUp, List.filter_cons_of_pos (by simpa using here),
        List.reverse_cons, List.append_assoc, List.singleton_append]

theorem Leads.goal_eq (leads : Leads parts place) : goal parts = place := by
  obtain ⟨dots, names, rfl, still, level, rfl⟩ := leads
  have flat : dots.foldl onward [] = [] := goal_of_dots still
  rw [goal, List.foldl_append, flat, foldl_onward_of_level level, List.append_nil]

/-- A path that does not climb leads through nothing but the directories above its goal. -/
theorem Leads.suffix_of_crosses (leads : Leads parts place) {other : Location}
    (crosses : Crosses parts other) : other <:+ place := by
  obtain ⟨front, begins, rfl⟩ := crosses
  rw [List.prefix_iff_eq_take.mp begins]
  obtain ⟨higher, leadsHigher, above⟩ := leads.take front.length
  rw [leadsHigher.goal_eq]
  exact above

theorem avoids_of_not_climbs {path : Path} (level : path.climbs = false) (name : String) :
    Avoids path.parts (name :: goal path.parts) := by
  obtain ⟨base, leads⟩ := Leads.of_not_climbs level
  intro other crosses inner below
  rw [leads.goal_eq] at below
  have longer := (below.trans (leads.suffix_of_crosses crosses)).length_le
  rw [List.length_cons, List.length_cons] at longer
  omega

end Path

namespace Tree

variable {tree : Tree} {place last : Location} {parts : List String}

theorem foldl_onward_of_walk (walked : tree.walk place parts = .ok last) :
    last = parts.foldl Path.onward place := by
  induction parts generalizing place with
  | nil =>
    cases walked
    rfl
  | cons part rest ih =>
    rw [walk_cons] at walked
    rw [List.foldl_cons, Path.onward]
    split at walked
    · cases walked
    · cases walked
    · split at walked
      · rename_i here
        rw [if_pos here]
        exact ih walked
      · rename_i onward
        rw [if_neg onward]
        split at walked
        · rename_i up
          rw [if_pos up]
          exact ih walked
        · rename_i down
          rw [if_neg down]
          split at walked
          · cases walked
          · exact ih walked

theorem eq_goal_of_walk (walked : tree.walk [] parts = .ok last) : last = Path.goal parts :=
  foldl_onward_of_walk walked

theorem walk_ok (level : Path.above ∉ parts) (walked : tree.walk place parts = .ok last) :
    last = (parts.filter (· ≠ Path.self)).reverse ++ place := by
  rw [foldl_onward_of_walk walked, Path.foldl_onward_of_level level]

theorem goal_of_walk (leads : Path.Leads parts place) (walked : tree.walk [] parts = .ok last) :
    last = place :=
  (eq_goal_of_walk walked).trans leads.goal_eq

end Tree

end WordTally
