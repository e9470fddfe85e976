import WordTally.Proofs.Files.Working

set_option autoImplicit false

namespace WordTally.Tree

variable {tree later : Tree} {base place : Location} {mine other : String}
  {names rest : List String}

/-- What stands in the other directory stays. -/
theorem Spares.beside (spares : Spares (mine :: base) tree later) (apart : other ≠ mine)
    {location : Location} (inside : other :: base <:+ location) :
    later.at? location = tree.at? location := by
  have outside : ¬ mine :: base <:+ location := by
    intro below
    have nested := List.suffix_of_suffix_length_le inside below (Nat.le_refl _)
    exact apart (List.cons.inj (nested.eq_of_length rfl)).1
  rcases spares location outside with same | ⟨_, _, above⟩
  · exact same
  · have equal := (inside.trans above).eq_of_length rfl
    exact absurd (List.cons.inj equal).1 apart

/-- A directory on the way stays, and if it was missing it may have been made. -/
theorem Spares.onWay (spares : Spares (mine :: base) tree later) (above : place <:+ base) :
    later.at? place = tree.at? place ∨
      tree.at? place = none ∧ later.at? place = some .directory := by
  have outside : ¬ mine :: base <:+ place := by
    intro below
    have longer := (below.trans above).length_le
    rw [List.length_cons] at longer
    omega
  rcases spares place outside with same | ⟨absent, made, _⟩
  · exact .inl same
  · exact .inr ⟨absent, made⟩

/-- In a sound tree nothing is found behind a missing directory, whatever has been made since on the
way to the directory beside. -/
theorem walk_missing (spares : Spares (mine :: base) tree later) (apart : other ≠ mine)
    (sound : tree.Sound) (level : Path.above ∉ names)
    (named : Disk.isDots other = false) (some_ : rest ≠ [])
    (goes : base = (names.filter (· ≠ Path.self)).reverse ++ place)
    (short : ∀ part ∈ names ++ [other], part.utf8ByteSize ≤ longestName)
    (absent : tree.at? place = none) :
    later.walk place (names ++ other :: rest) = .error .notFound := by
  induction names generalizing place with
  | nil =>
    have here : base = place := goes
    subst here
    have notDot : other ≠ Path.self ∧ other ≠ Path.above := by
      simpa [Disk.isDots] using named
    rw [List.nil_append, walk_cons]
    rcases spares.onWay (List.suffix_refl base) with same | ⟨_, made⟩
    · rw [same, absent]
    · rw [made]
      dsimp only
      have fits := short other (by simp)
      rw [if_neg notDot.1, if_neg notDot.2, if_neg (by omega)]
      have beside : later.at? (other :: base) = none := by
        rw [spares.beside apart (List.suffix_refl _)]
        by_contra there
        rw [sound other base there] at absent
        cases absent
      cases rest with
      | nil => exact absurd rfl some_
      | cons part others => rw [walk_cons, beside]
  | cons part others ih =>
    have levelRest : Path.above ∉ others := fun member => level (List.mem_cons_of_mem _ member)
    have notUp : part ≠ Path.above := fun same => level (same ▸ List.mem_cons_self)
    have shortRest : ∀ next ∈ others ++ [other], next.utf8ByteSize ≤ longestName :=
      fun next member => short next (List.mem_cons_of_mem _ member)
    have onWay : place <:+ base := goes ▸ List.suffix_append _ _
    rw [List.cons_append, walk_cons]
    rcases spares.onWay onWay with same | ⟨_, made⟩
    · rw [same, absent]
    · rw [made]
      dsimp only
      by_cases here : part = Path.self
      · rw [if_pos here]
        apply ih levelRest ?_ shortRest absent
        rw [goes, List.filter_cons_of_neg (by simpa using here)]
      · have fits := short part (by simp)
        rw [if_neg here, if_neg notUp, if_neg (by omega)]
        apply ih levelRest ?_ shortRest
        · by_contra there
          rw [sound part place there] at absent
          cases absent
        · rw [goes, List.filter_cons_of_pos (by simpa using here), List.reverse_cons,
            List.append_assoc, List.singleton_append]

/-- A path through the other directory leads where it led before. It must be known that the common
directory is there, or else that nothing stands behind a missing directory and that no name on the
way is refused for its length. -/
theorem walk_beside (spares : Spares (mine :: base) tree later) (apart : other ≠ mine)
    (level : Path.above ∉ names) (named : Disk.isDots other = false)
    (levelRest : Path.above ∉ rest) (some_ : rest ≠ [])
    (goes : base = (names.filter (· ≠ Path.self)).reverse ++ place)
    (ready : (tree.walk place names = .ok base ∧ tree.at? base = some .directory) ∨
      tree.Sound ∧ ∀ part ∈ names ++ [other], part.utf8ByteSize ≤ longestName) :
    later.walk place (names ++ other :: rest) = tree.walk place (names ++ other :: rest) := by
  induction names generalizing place with
  | nil =>
    have here : base = place := goes
    subst here
    have notDot : other ≠ Path.self ∧ other ≠ Path.above := by
      simpa [Disk.isDots] using named
    rw [List.nil_append, walk_cons, walk_cons]
    rcases spares.onWay (List.suffix_refl base) with same | ⟨absent, _⟩
    · rw [same]
      split
      · rfl
      · rfl
      · rw [if_neg notDot.1, if_neg notDot.1, if_neg notDot.2, if_neg notDot.2]
        split
        · rfl
        · exact walk_congr levelRest fun location inside _ => spares.beside apart inside
    · rcases ready with ⟨_, there⟩ | ⟨sound, short⟩
      · rw [absent] at there
        cases there
      · have missing := walk_missing spares apart sound level named some_ goes short absent
        rw [List.nil_append, walk_cons] at missing
        rw [missing, absent]
  | cons part others ih =>
    have levelRest' : Path.above ∉ others := fun member => level (List.mem_cons_of_mem _ member)
    have notUp : part ≠ Path.above := fun same => level (same ▸ List.mem_cons_self)
    have onWay : place <:+ base := goes ▸ List.suffix_append _ _
    rcases spares.onWay onWay with same | ⟨absent, _⟩
    · rw [List.cons_append, walk_cons, walk_cons, same]
      split
      · rfl
      · rfl
      · rename_i there
        by_cases here : part = Path.self
        · rw [if_pos here, if_pos here]
          refine ih levelRest' ?_ (ready.imp ?_ ?_)
          · rw [goes, List.filter_cons_of_neg (by simpa using here)]
          · rw [walk_cons, there, if_pos here]
            exact id
          · exact fun known => ⟨known.1, fun next member =>
              known.2 next (List.mem_cons_of_mem _ member)⟩
        · rw [if_neg here, if_neg here, if_neg notUp, if_neg notUp]
          split
          · rfl
          · rename_i fits
            refine ih levelRest' ?_ (ready.imp ?_ ?_)
            · rw [goes, List.filter_cons_of_pos (by simpa using here), List.reverse_cons,
                List.append_assoc, List.singleton_append]
            · rw [walk_cons, there, if_neg here, if_neg notUp, if_neg fits]
              exact id
            · exact fun known => ⟨known.1, fun next member =>
                known.2 next (List.mem_cons_of_mem _ member)⟩
    · rcases ready with ⟨walked, _⟩ | ⟨sound, short⟩
      · rw [walk_cons, absent] at walked
        cases walked
      · rw [walk_missing spares apart sound level named some_ goes short absent,
          List.cons_append, walk_cons, absent]

end WordTally.Tree
