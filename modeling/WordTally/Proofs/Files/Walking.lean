import WordTally.Files.Disk
import Mathlib.Tactic.Common

set_option autoImplicit false

namespace WordTally

namespace Path

def namesIn (text : List Char) : List String :=
  ((Text.pieces '/' text).filter fun piece => !piece.isEmpty).map String.ofList

theorem namesIn_append (first second : List Char) :
    namesIn (first ++ '/' :: second) = namesIn first ++ namesIn second := by
  simp only [namesIn, Text.pieces]
  rw [List.splitOnP_append_cons _ _ (by decide), List.filter_append, List.map_append]

@[simp] theorem namesIn_nil : namesIn [] = [] := by
  simp [namesIn, Text.pieces]

theorem parts_join {dir : Path} {name : String}
    (relative : (⟨name⟩ : Path).startsWithSlash = false) :
    (dir.join name).parts = dir.parts ++ (⟨name⟩ : Path).parts := by
  change namesIn (dir.join name).text.toList = namesIn dir.text.toList ++ namesIn name.toList
  unfold join
  rw [relative]
  by_cases empty : dir.text.isEmpty = true
  · have nothing : dir.text = "" := String.isEmpty_iff.mp empty
    simp [nothing]
  · by_cases ends : dir.endsInSlash = true
    · obtain ⟨front, whole⟩ := List.getLast?_eq_some_iff.mp (beq_iff_eq.mp ends)
      simp only [Bool.false_eq_true, ↓reduceIte, ends, Bool.or_true, String.toList_append, whole,
        List.append_assoc, List.singleton_append, namesIn_append, namesIn_nil, List.append_nil]
    · simp only [Bool.false_eq_true, ↓reduceIte, ends, empty, Bool.or_false,
        String.toList_append, List.append_assoc]
      exact namesIn_append _ _

/-- The path leads back out of a directory that it names. -/
def climbs (path : Path) : Bool := (path.parts.dropWhile Disk.isDots).contains above

/-- Parts lead from the root to a place, if they lead anywhere: apart from dots at the beginning,
which stay at the root, none of them leads back up. -/
def Leads (parts : List String) (goal : Location) : Prop :=
  ∃ dots names, parts = dots ++ names ∧ (∀ part ∈ dots, Disk.isDots part = true) ∧
    above ∉ names ∧ goal = (names.filter (· ≠ self)).reverse

namespace Leads

variable {parts : List String} {goal : Location}

theorem of_not_climbs {path : Path} (level : path.climbs = false) :
    ∃ goal, Leads path.parts goal := by
  refine ⟨_, path.parts.takeWhile Disk.isDots, path.parts.dropWhile Disk.isDots,
    List.takeWhile_append_dropWhile.symm, ?_, ?_, rfl⟩
  · exact List.all_eq_true.mp List.all_takeWhile
  · simpa [climbs] using level

theorem append (leads : Leads parts goal) {more : List String} (level : above ∉ more) :
    Leads (parts ++ more) ((more.filter (· ≠ self)).reverse ++ goal) := by
  obtain ⟨dots, names, rfl, still, up, rfl⟩ := leads
  refine ⟨dots, names ++ more, List.append_assoc .., still, ?_, ?_⟩
  · rw [List.mem_append]
    exact fun member => member.elim up level
  · rw [List.filter_append, List.reverse_append]

/-- The beginnings of a path lead to the directories above. -/
theorem take (leads : Leads parts goal) (count : Nat) :
    ∃ place, Leads (parts.take count) place ∧ place <:+ goal := by
  obtain ⟨dots, names, rfl, still, up, rfl⟩ := leads
  refine ⟨_, ⟨dots.take count, names.take (count - dots.length), List.take_append .., ?_, ?_, rfl⟩,
    ?_⟩
  · exact fun part member => still part (List.mem_of_mem_take member)
  · exact fun member => up (List.mem_of_mem_take member)
  · rw [List.reverse_suffix]
    exact (List.take_prefix _ _).filter _

end Leads

end Path

namespace Tree

variable {tree later : Tree} {place goal : Location} {names parts : List String}

theorem walk_cons (tree : Tree) (place : Location) (part : String) (rest : List String) :
    tree.walk place (part :: rest) =
      match tree.at? place with
      | none => .error .notFound
      | some (.file _) => .error .notDirectory
      | some .directory =>
        if part = Path.self then tree.walk place rest
        else if part = Path.above then tree.walk place.tail rest
        else if longestName < part.utf8ByteSize then .error .nameTooLong
        else tree.walk (part :: place) rest := rfl

theorem walk_append (tree : Tree) (place : Location) (first second : List String) :
    tree.walk place (first ++ second) =
      (tree.walk place first).bind fun next => tree.walk next second := by
  induction first generalizing place with
  | nil => rfl
  | cons part rest ih =>
    rw [List.cons_append, walk_cons, walk_cons]
    cases tree.at? place with
    | none => rfl
    | some entry =>
      cases entry with
      | file => rfl
      | directory =>
        dsimp only
        split
        · exact ih place
        · split
          · exact ih place.tail
          · split
            · rfl
            · exact ih (part :: place)

theorem walk_dots {dots : List String} (still : ∀ part ∈ dots, Disk.isDots part = true)
    (rest : List String) : tree.walk [] (dots ++ rest) = tree.walk [] rest := by
  induction dots with
  | nil => rfl
  | cons part dots ih =>
    have tail := ih fun other member => still other (List.mem_cons_of_mem _ member)
    rw [List.cons_append, walk_cons, at?_nil]
    dsimp only
    by_cases here : part = Path.self
    · rw [if_pos here, tail]
    · have up : part = Path.above := by
        have dot := still part List.mem_cons_self
        simpa [Disk.isDots, here] using dot
      rw [if_neg here, if_pos up, List.tail_nil, tail]

/-- Walking depends on nothing but the places on the way. -/
theorem walk_congr (level : Path.above ∉ names)
    (agree : ∀ other, place <:+ other → other <:+ (names.filter (· ≠ Path.self)).reverse ++ place →
      later.at? other = tree.at? other) :
    later.walk place names = tree.walk place names := by
  induction names generalizing place with
  | nil => rfl
  | cons part rest ih =>
    have levelRest : Path.above ∉ rest := fun member => level (List.mem_cons_of_mem _ member)
    have notUp : part ≠ Path.above := fun same => level (same ▸ List.mem_cons_self)
    rw [walk_cons, walk_cons, agree place (List.suffix_refl _) (List.suffix_append _ _)]
    split
    · rfl
    · rfl
    · by_cases here : part = Path.self
      · rw [if_pos here, if_pos here]
        apply ih levelRest
        intro other above below
        apply agree other above
        rwa [List.filter_cons_of_neg (by simpa using here)]
      · rw [if_neg here, if_neg here, if_neg notUp, if_neg notUp]
        split
        · rfl
        · apply ih levelRest
          intro other above below
          apply agree other ((List.suffix_cons _ _).trans above)
          rw [List.filter_cons_of_pos (by simpa using here), List.reverse_cons,
            List.append_assoc, List.singleton_append]
          exact below

/-- Trees that agree on the way to a place agree about the paths that lead there. -/
theorem walk_congr_of_leads (leads : Path.Leads parts goal)
    (agree : ∀ other, other <:+ goal → later.at? other = tree.at? other) :
    later.walk [] parts = tree.walk [] parts := by
  obtain ⟨dots, names, rfl, still, up, rfl⟩ := leads
  rw [walk_dots still, walk_dots still]
  apply walk_congr up
  intro other _ below
  rw [List.append_nil] at below
  exact agree other below

end Tree

end WordTally
