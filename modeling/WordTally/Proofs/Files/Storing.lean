import WordTally.Proofs.Files.Working
import WordTally.Store

set_option autoImplicit false

namespace WordTally

/-- A path that is one name, short enough for a file. -/
structure Path.IsFileName (name : String) : Prop where
  relative : (⟨name⟩ : Path).startsWithSlash = false
  single : (⟨name⟩ : Path).parts = [name]
  named : Disk.isDots name = false
  short : name.utf8ByteSize ≤ Tree.longestName

namespace Tree

theorem find_ok {tree : Tree} {path : Path} {place : Location} {entry : Entry}
    (found : tree.find path = .ok (place, entry)) :
    flaw? path = none ∧ tree.walk [] path.parts = .ok place ∧ tree.at? place = some entry := by
  unfold find at found
  split at found
  · cases found
  · rename_i clean
    split at found
    · cases found
    · rename_i walked
      split at found
      · cases found
      · rename_i content stands
        split at found
        · cases found
        · cases found
          exact ⟨clean, walked, stands⟩
      · rename_i stands
        cases found
        exact ⟨clean, walked, stands⟩

theorem mem_lookup_of_ne_none {entries : List (Location × Entry)} {place : Location}
    (there : entries.lookup place ≠ none) : ∃ entry, (place, entry) ∈ entries := by
  induction entries with
  | nil => exact absurd rfl there
  | cons head rest ih =>
    obtain ⟨first, entry⟩ := head
    by_cases same : place = first
    · subst same
      exact ⟨entry, List.mem_cons_self⟩
    · rw [List.lookup_cons, beq_false_of_ne same] at there
      obtain ⟨entry, member⟩ := ih there
      exact ⟨entry, List.mem_cons_of_mem _ member⟩

theorem mem_names {tree : Tree} {dir : Location} {name : String}
    (there : tree.at? (name :: dir) ≠ none) : name ∈ tree.names dir := by
  obtain ⟨entry, member⟩ := mem_lookup_of_ne_none there
  refine List.mem_filterMap.mpr ⟨_, member, ?_⟩
  simp only [↓reduceIte]

end Tree

namespace Store

open WordTally.Tree

variable {disk after : Disk} {dir : Path} {top place : Location} {name : String}

theorem enter_paves (dir : Path) (disk : Disk) :
    Paves (Path.Crosses dir.parts) disk.tree (enter dir disk).2.tree := by
  have made := Disk.makeDirectories_paves disk dir
  unfold enter
  split
  · exact .nothing
  · exact .nothing
  · split
    · rename_i error after failed
      rw [failed] at made
      exact made
    · rename_i after done
      rw [done] at made
      split <;> exact made
  · exact .nothing

theorem enter_opens (entered : enter dir disk = (.ok place, after)) :
    Opens dir.parts place after.tree := by
  unfold enter at entered
  split at entered
  · rename_i found
    cases entered
    obtain ⟨_, walked, there⟩ := find_ok found
    exact ⟨walked, there⟩
  · cases entered
  · split at entered
    · cases entered
    · rename_i done
      split at entered
      · rename_i walked
        cases entered
        exact ⟨walked, Disk.makeDirectories_none done walked⟩
      · cases entered
  · cases entered

theorem ensure_works_along (dir : Path) (disk : Disk) :
    Works (Path.Crosses dir.parts) (Path.goal dir.parts) disk.tree (ensure dir disk).2.tree := by
  have paved : Works (Path.Crosses dir.parts) (Path.goal dir.parts) disk.tree
      (enter dir disk).2.tree := .of_paves (enter_paves dir disk)
  unfold ensure
  split
  · rename_i reason after failed
    rw [failed] at paved
    exact paved
  · rename_i place after entered
    rw [entered] at paved
    obtain ⟨walked, there⟩ := enter_opens entered
    obtain rfl := eq_goal_of_walk walked
    split
    · exact paved
    · rename_i probed made
      obtain ⟨source, rfl, edits, _⟩ := Disk.makeTemporary_ok made
      exact paved.edit there (edits.trans (Disk.discard_edits _ _ _))

/-- A directory that is ready was entered, and then only its entries changed. -/
theorem ensure_entered (ensured : ensure dir disk = (.ok place, after)) :
    ∃ entered, enter dir disk = (.ok place, entered) ∧ Edits place entered.tree after.tree := by
  unfold ensure at ensured
  split at ensured
  · cases ensured
  · rename_i entered
    split at ensured
    · cases ensured
    · rename_i made
      cases ensured
      obtain ⟨source, rfl, edits, _⟩ := Disk.makeTemporary_ok made
      exact ⟨_, entered, edits.trans (Disk.discard_edits _ _ _)⟩

theorem ensure_there (ensured : ensure dir disk = (.ok place, after)) :
    place = Path.goal dir.parts ∧ after.tree.at? place = some .directory := by
  obtain ⟨entered, arrived, edits⟩ := ensure_entered ensured
  obtain ⟨walked, there⟩ := enter_opens arrived
  have kept := edits.inside.keeps (List.suffix_refl place)
  exact ⟨eq_goal_of_walk walked, kept.trans there⟩

theorem ensure_ok (leads : Path.Leads dir.parts top)
    (ensured : ensure dir disk = (.ok place, after)) :
    place = top ∧ Opens dir.parts top after.tree := by
  obtain ⟨entered, arrived, edits⟩ := ensure_entered ensured
  have opens := enter_opens arrived
  have same := goal_of_walk leads opens.1
  subst same
  exact ⟨rfl, edits.inside.opens leads opens⟩

theorem remove_ok (removed : disk.remove (name :: top) = .ok after) :
    after.tree = disk.tree.remove (name :: top) :=
  Disk.tree_of_change removed

theorem clear_edits (top : Location) (disk : Disk) (names : List String) (count : Nat) :
    Edits top disk.tree (clear top names count disk).2.tree := by
  induction names generalizing count disk with
  | nil => exact .nothing
  | cons name rest ih =>
    unfold clear
    split
    · exact .nothing
    · rename_i after removed
      have first : Edits top disk.tree after.tree := by
        rw [remove_ok removed]
        exact .remove name .nothing
      exact first.trans (ih after (count + 1))

theorem clear_ok {names : List String} {count total : Nat}
    (cleared : clear top names count disk = (.ok total, after)) {name : String}
    (gone : name ∈ names ∨ disk.tree.at? (name :: top) = none) :
    after.tree.at? (name :: top) = none := by
  induction names generalizing count disk with
  | nil =>
    cases cleared
    exact gone.resolve_left List.not_mem_nil
  | cons first rest ih =>
    unfold clear at cleared
    split at cleared
    · cases cleared
    · rename_i next removed
      apply ih cleared
      by_cases later : name ∈ rest
      · exact .inl later
      · right
        rw [remove_ok removed]
        by_cases here : name = first
        · rw [here]
          exact at?_remove_below (List.suffix_refl _) (List.cons_ne_nil _ _)
        · have before : disk.tree.at? (name :: top) = none := by
            refine gone.resolve_left fun member => ?_
            rcases List.mem_cons.mp member with same | inRest
            · exact here same
            · exact later inRest
          rw [at?_remove_outside, before]
          intro below
          exact here (List.cons.inj (below.eq_of_length rfl)).1.symm

theorem count_of_clear {names : List String} {count total : Nat}
    (cleared : clear top names count disk = (.ok total, after)) : total = count + names.length := by
  induction names generalizing count disk with
  | nil =>
    cases cleared
    rfl
  | cons first rest ih =>
    unfold clear at cleared
    split at cleared
    · cases cleared
    · rw [ih cleared, List.length_cons]
      omega

theorem reset_works_along (dir : Path) (disk : Disk) :
    Works (Path.Crosses dir.parts) (Path.goal dir.parts) disk.tree (reset dir disk).2.tree := by
  have works := ensure_works_along dir disk
  unfold reset
  split
  · rename_i error after failed
    rw [failed] at works
    exact works
  · rename_i place after ensured
    rw [ensured] at works
    obtain ⟨rfl, there⟩ := ensure_there ensured
    split
    · exact works
    · rename_i found
      rw [eq_goal_of_walk (find_ok found).2.1]
      exact works.edit there (clear_edits _ _ _ 0)

theorem reset_works (disk : Disk) (leads : Path.Leads dir.parts top) :
    Works (· <:+ top) top disk.tree (reset dir disk).2.tree :=
  (reset_works_along dir disk).of_leads leads

/-- All that a directory had once it was ready is gone after a reset, and counted. -/
theorem reset_clears {count : Nat} (done : reset dir disk = (.ok count, after)) :
    (∀ name, after.tree.at? (name :: Path.goal dir.parts) = none) ∧
      ∃ ready, ensure dir disk = (.ok (Path.goal dir.parts), ready) ∧
        Edits (Path.goal dir.parts) ready.tree after.tree ∧
        count = (ready.tree.names (Path.goal dir.parts)).length := by
  unfold reset at done
  split at done
  · cases done
  · rename_i place ready ensured
    obtain ⟨rfl, there⟩ := ensure_there ensured
    split at done
    · cases done
    · rename_i found
      rw [eq_goal_of_walk (find_ok found).2.1] at done
      have edits := clear_edits (Path.goal dir.parts) ready
        (ready.tree.names (Path.goal dir.parts)) 0
      rw [done] at edits
      refine ⟨fun name => clear_ok done ?_, ready, ensured, edits, ?_⟩
      · by_cases there : ready.tree.at? (name :: Path.goal dir.parts) = none
        · exact .inr there
        · exact .inl (mem_names there)
      · rw [count_of_clear done, Nat.zero_add]

theorem reset_ok (leads : Path.Leads dir.parts top) {count : Nat}
    (done : reset dir disk = (.ok count, after)) :
    Opens dir.parts top after.tree ∧ ∀ name, after.tree.at? (name :: top) = none := by
  obtain ⟨nothing, ready, ensured, edits, _⟩ := reset_clears done
  rw [leads.goal_eq] at nothing edits
  exact ⟨edits.inside.opens leads (ensure_ok leads ensured).2, nothing⟩

theorem parts_join_name (file : Path.IsFileName name) :
    (dir.join name).parts = dir.parts ++ [name] := by
  rw [Path.parts_join file.relative, file.single]

theorem write_works_along (dir : Path) (disk : Disk) (file : Path.IsFileName name)
    (content : String) :
    Works (Path.Crosses dir.parts) (Path.goal dir.parts) disk.tree
      (write dir name content disk).2.tree := by
  have works := ensure_works_along dir disk
  unfold write
  split
  · rename_i error after failed
    rw [failed] at works
    exact works
  · rename_i place ready ensured
    rw [ensured] at works
    obtain ⟨rfl, there⟩ := ensure_there ensured
    have named : (dir.join name).parts = dir.parts ++ [name] := parts_join_name file
    have edits := Disk.replace_edits ready content.toUTF8 named rfl
    split
    · rename_i error after failed
      rw [failed] at edits
      exact works.edit there edits
    · rename_i after done
      rw [done] at edits
      exact works.edit there edits

theorem write_works (disk : Disk) (leads : Path.Leads dir.parts top) (file : Path.IsFileName name)
    (content : String) : Works (· <:+ top) top disk.tree (write dir name content disk).2.tree :=
  (write_works_along dir disk file content).of_leads leads

/-- A file that was written is there with its content. -/
theorem write_ok (leads : Path.Leads dir.parts top) (file : Path.IsFileName name)
    {content : String} {path : Path} (written : write dir name content disk = (.ok path, after)) :
    Opens dir.parts top after.tree ∧
      after.tree.at? (name :: top) = some (.file content.toUTF8) := by
  unfold write at written
  split at written
  · cases written
  · rename_i ensured
    obtain ⟨rfl, _⟩ := ensure_ok leads ensured
    split at written
    · cases written
    · rename_i done
      cases written
      exact Disk.replace_none (parts_join_name file) leads done

theorem read_congr {tree later : Tree}
    (walked : later.walk [] (dir.join name).parts = tree.walk [] (dir.join name).parts)
    (agree : ∀ place, tree.walk [] (dir.join name).parts = .ok place →
      later.at? place = tree.at? place) : read dir name later = read dir name tree := by
  have found : later.find (dir.join name) = tree.find (dir.join name) := by
    unfold find
    rw [walked]
    split
    · rfl
    · split
      · rfl
      · rename_i place there
        rw [agree place there]
  unfold read
  rw [found]

theorem walk_named {tree : Tree} (opens : Opens dir.parts top tree) (file : Path.IsFileName name) :
    tree.walk [] (dir.join name).parts = .ok (name :: top) := by
  have notDot : name ≠ Path.self ∧ name ≠ Path.above := by
    simpa [Disk.isDots] using file.named
  have fits := file.short
  rw [parts_join_name file, walk_append, opens.1]
  change tree.walk top [name] = _
  rw [walk_cons, opens.2]
  dsimp only
  rw [if_neg notDot.1, if_neg notDot.2, if_neg (by omega)]
  rfl

theorem read_absent {tree : Tree} (opens : Opens dir.parts top tree)
    (clean : flaw? (dir.join name) = none) (file : Path.IsFileName name)
    (absent : tree.at? (name :: top) = none) : read dir name tree = .ok none := by
  unfold read find
  rw [clean, walk_named opens file]
  dsimp only
  rw [absent]

theorem fromUTF8?_toUTF8 (text : String) : String.fromUTF8? text.toUTF8 = some text := by
  unfold String.fromUTF8?
  exact dif_pos text.isValidUTF8

theorem read_file {tree : Tree} {text : String} (opens : Opens dir.parts top tree)
    (clean : flaw? (dir.join name) = none) (open_ : (dir.join name).endsInSlash = false)
    (file : Path.IsFileName name)
    (stands : tree.at? (name :: top) = some (.file text.toUTF8)) :
    read dir name tree = .ok (some text) := by
  unfold read find
  rw [clean, walk_named opens file]
  dsimp only
  rw [stands, open_]
  simp only [Bool.false_eq_true, ↓reduceIte, fromUTF8?_toUTF8]

end Store

end WordTally
