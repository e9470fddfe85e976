import WordTally.Proofs.Files.Storing

/-
What any path finds before and after a file is written, also a path that leads back up. A way leads
through directories that stand in directories as far as the root, and as long as these stay it leads
to the same place. A write that is refused leaves every file as it was; one that is done is found by
the path that it was given.
-/

set_option autoImplicit false

namespace WordTally

namespace Tree

variable {tree later last : Tree} {place goal other dir : Location} {name : String}
  {parts : List String} {content : ByteArray}

/-- A place is a directory, and so is everything above it. -/
def Firm (tree : Tree) (place : Location) : Prop :=
  ∀ other, other <:+ place → tree.at? other = some .directory

namespace Firm

theorem root (tree : Tree) : Firm tree [] := by
  intro other above
  rw [List.suffix_nil.mp above, at?_nil]

theorem there (firm : Firm tree place) : tree.at? place = some .directory :=
  firm place (List.suffix_refl _)

theorem above (firm : Firm tree place) (above : other <:+ place) : Firm tree other :=
  fun third higher => firm third (higher.trans above)

theorem of_tail (firm : Firm tree place.tail) (there : tree.at? place = some .directory) :
    Firm tree place := by
  intro other above
  cases place with
  | nil =>
    rw [List.suffix_nil.mp above]
    exact there
  | cons name dir =>
    rcases List.suffix_cons_iff.mp above with rfl | higher
    · exact there
    · exact firm other higher

end Firm

/-- As long as the directories on a way stay, it leads to the same place. -/
theorem walk_of_firm (kept : ∀ place, Firm tree place → later.at? place = some .directory)
    (firm : Firm tree place.tail) (walked : tree.walk place parts = .ok goal) :
    later.walk place parts = .ok goal ∧ Firm tree goal.tail := by
  induction parts generalizing place with
  | nil =>
    cases walked
    exact ⟨rfl, firm⟩
  | cons part rest ih =>
    rw [walk_cons] at walked ⊢
    split at walked
    · cases walked
    · cases walked
    · rename_i there
      have standing : Firm tree place := firm.of_tail there
      rw [kept place standing]
      dsimp only
      split at walked
      · rename_i here
        rw [if_pos here]
        exact ih firm walked
      · rename_i onward
        rw [if_neg onward]
        split at walked
        · rename_i up
          rw [if_pos up]
          exact ih (firm.above (List.tail_suffix _)) walked
        · rename_i down
          rw [if_neg down]
          split at walked
          · cases walked
          · rename_i fits
            rw [if_neg fits]
            exact ih standing walked

theorem walk_of_firm_root (kept : ∀ place, Firm tree place → later.at? place = some .directory)
    (walked : tree.walk [] parts = .ok goal) :
    later.walk [] parts = .ok goal ∧ Firm tree goal.tail :=
  walk_of_firm kept (Firm.root tree : Firm tree (List.tail [])) walked

theorem level_of_find {path : Path} (found : tree.find path = .ok (place, .file content)) :
    path.endsInSlash = false := by
  unfold find at found
  split at found
  · cases found
  · split at found
    · cases found
    · split at found
      · cases found
      · split at found
        · cases found
        · rename_i level
          exact Bool.eq_false_iff.mpr level
      · cases found

theorem find_file_of_firm {path : Path} {other : ByteArray}
    (kept : ∀ place, Firm tree place → later.at? place = some .directory)
    (found : tree.find path = .ok (place, .file content))
    (stands : Firm tree place.tail → later.at? place = some (.file other)) :
    later.find path = .ok (place, .file other) := by
  have level := level_of_find found
  obtain ⟨clean, walked, _⟩ := find_ok found
  obtain ⟨again, firm⟩ := walk_of_firm_root kept walked
  unfold find
  rw [clean, again]
  dsimp only
  rw [stands firm]
  simp only [level, Bool.false_eq_true, ↓reduceIte]

/-- A tree has the files of another one, each where a way led to it, and no file besides. What
directories a way led through are there still; others may have been made. -/
structure Keeps (tree later : Tree) : Prop where
  firm : ∀ place, Firm tree place → later.at? place = some .directory
  file : ∀ name dir content, Firm tree dir → tree.at? (name :: dir) = some (.file content) →
    later.at? (name :: dir) = some (.file content)
  old : ∀ place content, later.at? place = some (.file content) →
    tree.at? place = some (.file content)

namespace Keeps

theorem refl (tree : Tree) : Keeps tree tree :=
  ⟨fun _ firm => firm.there, fun _ _ _ _ stands => stands, fun _ _ stands => stands⟩

theorem trans (first : Keeps tree later) (second : Keeps later last) : Keeps tree last where
  firm place firm := second.firm place fun other above => first.firm other (firm.above above)
  file name dir content firm stands :=
    second.file name dir content (fun other above => first.firm other (firm.above above))
      (first.file name dir content firm stands)
  old place content stands := first.old place content (second.old place content stands)

theorem put_directory (absent : tree.at? (name :: dir) = none) :
    Keeps tree (tree.put (name :: dir) .directory) := by
  have others : ∀ place entry, tree.at? place = some entry →
      (tree.put (name :: dir) .directory).at? place = some entry := by
    intro place entry stands
    rw [at?_put_other, stands]
    rintro rfl
    rw [absent] at stands
    cases stands
  refine ⟨fun place firm => others place _ firm.there, fun _ _ _ _ stands => others _ _ stands, ?_⟩
  intro place content stands
  by_cases here : place = name :: dir
  · subst here
    rw [at?_put_same (List.cons_ne_nil _ _)] at stands
    cases stands
  · rwa [at?_put_other here] at stands

/-- What stood for a while where nothing had stood is taken away again. -/
theorem of_removed {middle : Tree} (absent : tree.at? (name :: dir) = none)
    (agree : ∀ place, place ≠ name :: dir → middle.at? place = tree.at? place) :
    Keeps tree (middle.remove (name :: dir)) := by
  have outside : ∀ place, Firm tree place → ¬ name :: dir <:+ place := by
    intro place firm below
    have there := firm _ below
    rw [absent] at there
    cases there
  have kept : ∀ place, ¬ name :: dir <:+ place →
      (middle.remove (name :: dir)).at? place = tree.at? place := by
    intro place beside
    rw [at?_remove_outside beside]
    apply agree
    rintro rfl
    exact beside (List.suffix_refl _)
  refine ⟨fun place firm => (kept place (outside place firm)).trans firm.there, ?_, ?_⟩
  · intro other parent content firm stands
    rw [kept, stands]
    intro below
    rcases List.suffix_cons_iff.mp below with same | higher
    · rw [← same, absent] at stands
      cases stands
    · exact outside parent firm higher
  · intro place content stands
    by_cases below : name :: dir <:+ place
    · by_cases root : place = []
      · subst root
        cases stands
      · rw [at?_remove_below below root] at stands
        cases stands
    · rwa [kept place below] at stands

/-- A file that a path finds is found by it still, with the same content. -/
theorem find (keeps : Keeps tree later) {path : Path}
    (found : tree.find path = .ok (place, .file content)) :
    later.find path = .ok (place, .file content) := by
  refine find_file_of_firm keeps.firm found fun firm => ?_
  obtain ⟨_, _, stands⟩ := find_ok found
  cases place with
  | nil => cases stands
  | cons name dir => exact keeps.file name dir content firm stands

end Keeps

/-- Every path finds the files that it found, with the same content, and no file is new. One place
is left aside. -/
structure SameFiles (aside : Option Location) (before after : Tree) : Prop where
  found : ∀ path place content, some place ≠ aside →
    before.find path = .ok (place, .file content) → after.find path = .ok (place, .file content)
  old : ∀ place content, some place ≠ aside →
    after.at? place = some (.file content) → before.at? place = some (.file content)

namespace SameFiles

variable {aside : Option Location}

theorem refl (aside : Option Location) (tree : Tree) : SameFiles aside tree tree :=
  ⟨fun _ _ _ _ found => found, fun _ _ _ stands => stands⟩

theorem trans (first : SameFiles aside tree later) (second : SameFiles aside later last) :
    SameFiles aside tree last where
  found path place content apart found :=
    second.found path place content apart (first.found path place content apart found)
  old place content apart stands :=
    first.old place content apart (second.old place content apart stands)

theorem of_keeps (keeps : Keeps tree later) : SameFiles aside tree later :=
  ⟨fun _ _ _ _ => keeps.find, fun place content _ => keeps.old place content⟩

theorem put_file {other : ByteArray} (stands : tree.at? place = some (.file content)) :
    SameFiles (some place) tree (tree.put place (.file other)) := by
  refine ⟨fun path goal old apart found => ?_, fun goal old apart after => ?_⟩
  · have elsewhere : goal ≠ place := fun same => apart (congrArg some same)
    refine find_file_of_firm (fun dir firm => ?_) found fun _ => ?_
    · rw [at?_put_other, firm.there]
      rintro rfl
      rw [firm.there] at stands
      cases stands
    · rw [at?_put_other elsewhere, (find_ok found).2.2]
  · have elsewhere : goal ≠ place := fun same => apart (congrArg some same)
    rwa [at?_put_other elsewhere] at after

end SameFiles

end Tree

namespace Disk

open WordTally.Tree

variable {disk after : Disk} {call : Call} {dir source : Location} {temporary : Location}
  {content : ByteArray} {target : Path} {parts front : List String} {name : String}

theorem makeDirectory_keeps (made : disk.makeDirectory parts = .ok after) :
    Keeps disk.tree after.tree := by
  unfold makeDirectory at made
  split at made
  · cases made
  · split at made
    · cases made
    · split at made
      · cases made
      · split at made
        · cases made
        · rename_i free
          rw [tree_of_change made]
          exact .put_directory (by simpa using free)

theorem makeEach_keeps (disk : Disk) (list : List (List String)) :
    Keeps disk.tree (disk.makeEach list).2.tree := by
  induction list generalizing disk with
  | nil => exact .refl _
  | cons parts above ih =>
    unfold makeEach
    dsimp only
    split
    · rename_i made
      exact makeDirectory_keeps made
    · have upper := ih disk
      split
      · rename_i failed
        rw [failed] at upper
        exact upper
      · rename_i done
        rw [done] at upper
        split
        · rename_i made
          exact upper.trans (makeDirectory_keeps made)
        · exact upper
    · exact .refl _

theorem makeDirectories_keeps (disk : Disk) (path : Path) :
    Keeps disk.tree (disk.makeDirectories path).2.tree := by
  unfold makeDirectories
  split
  · exact .refl _
  · split
    · exact .refl _
    · exact makeEach_keeps disk _

theorem makeTemporary_fresh (made : disk.makeTemporary call dir = .ok (temporary, after)) :
    ∃ name, temporary = name :: dir ∧ disk.tree.at? temporary = none ∧
      ∀ place, place ≠ temporary → after.tree.at? place = disk.tree.at? place := by
  obtain ⟨name, rfl, absent, same⟩ := makeTemporary_tree made
  rw [same]
  exact ⟨name, rfl, absent, fun place apart => at?_put_other apart⟩

theorem replace_stands (named : target.parts = front ++ [name])
    (replaced : disk.replace dir target content = (none, after)) :
    flaw? target = none ∧ target.endsInSlash = false ∧ ∃ parent, Opens front parent after.tree ∧
      after.tree.at? (name :: parent) = some (.file content) := by
  unfold replace at replaced
  split at replaced
  · cases replaced
  · rename_i temporary probed made
    obtain ⟨source, rfl, _, _⟩ := makeTemporary_fresh made
    split at replaced
    · cases replaced
    · rename_i written filled
      split at replaced
      · cases replaced
      · rename_i moved renamed
        cases replaced
        obtain ⟨names, parent, walked, there, free, same⟩ := rename_tree named renamed
        have file := fill_tree filled
        have kept : ∀ place, Firm written.tree place →
            after.tree.at? place = some .directory := by
          intro place firm
          have outside : ¬ source :: dir <:+ place := by
            intro below
            have directory := firm _ below
            rw [file, at?_put_same (List.cons_ne_nil _ _)] at directory
            cases directory
          rw [same, at?_put_other, at?_remove_outside outside, firm.there]
          rintro rfl
          exact free firm.there
        have stands : after.tree.at? (name :: parent) = some (.file content) := by
          rw [same, at?_put_same (List.cons_ne_nil _ _)]
        obtain ⟨again, firm⟩ := walk_of_firm_root kept walked
        exact ⟨names.clean, names.level, parent, ⟨again, kept parent (firm.of_tail there)⟩, stands⟩

/-- A file that could not be put at a path leaves nothing behind. -/
theorem replace_keeps {error : OsError}
    (refused : disk.replace dir target content = (some error, after)) :
    Keeps disk.tree after.tree := by
  unfold replace at refused
  split at refused
  · cases refused
    exact .refl _
  · rename_i temporary probed made
    obtain ⟨_, rfl, absent, agree⟩ := makeTemporary_fresh made
    split at refused
    · cases refused
      exact .of_removed absent agree
    · rename_i written filled
      split at refused
      · cases refused
        refine .of_removed absent fun place apart => ?_
        rw [fill_tree filled, at?_put_other apart, agree place apart]
      · cases refused

end Disk

namespace Store

open WordTally.Tree

variable {disk after : Disk} {dir path : Path} {place : Location} {name content : String}

theorem enter_keeps (dir : Path) (disk : Disk) : Keeps disk.tree (enter dir disk).2.tree := by
  have made := Disk.makeDirectories_keeps disk dir
  unfold enter
  split
  · exact .refl _
  · exact .refl _
  · split
    · rename_i failed
      rw [failed] at made
      exact made
    · rename_i done
      rw [done] at made
      split <;> exact made
  · exact .refl _

theorem ensure_keeps (dir : Path) (disk : Disk) : Keeps disk.tree (ensure dir disk).2.tree := by
  have entered := enter_keeps dir disk
  unfold ensure
  split
  · rename_i failed
    rw [failed] at entered
    exact entered
  · rename_i done
    rw [done] at entered
    split
    · exact entered
    · rename_i made
      obtain ⟨_, rfl, absent, agree⟩ := Disk.makeTemporary_fresh made
      exact entered.trans (.of_removed absent agree)

/-- A write that fails leaves every file as it was. -/
theorem write_keeps {error : StoreError}
    (failed : write dir name content disk = (.error error, after)) :
    Keeps disk.tree after.tree := by
  have ensured := ensure_keeps dir disk
  unfold write at failed
  split at failed
  · rename_i unusable
    rw [unusable] at ensured
    cases failed
    exact ensured
  · rename_i ready
    rw [ready] at ensured
    split at failed
    · rename_i refused
      cases failed
      exact ensured.trans (Disk.replace_keeps refused)
    · cases failed

/-- A text that is read is that of a file which the path of its name finds. -/
theorem read_eq_some_iff {tree : Tree} {text : String} :
    read dir name tree = .ok (some text) ↔
      ∃ place content, tree.find (dir.join name) = .ok (place, .file content) ∧
        String.fromUTF8? content = some text := by
  constructor
  · intro found
    unfold read at found
    split at found
    · cases found
    · cases found
    · cases found
    · rename_i place content standing
      split at found
      · rename_i decoded
        cases found
        exact ⟨place, content, standing, decoded⟩
      · cases found
  · rintro ⟨place, content, standing, decoded⟩
    unfold read
    rw [standing]
    dsimp only
    rw [decoded]

/-- What is written is read, whatever stood there before. -/
theorem read_of_write (file : Path.IsFileName name)
    (written : write dir name content disk = (.ok path, after)) :
    read dir name after.tree = .ok (some content) := by
  unfold write at written
  split at written
  · cases written
  · split at written
    · cases written
    · rename_i done
      cases written
      obtain ⟨clean, level, parent, opens, stands⟩ :=
        Disk.replace_stands (parts_join_name file) done
      exact read_file opens clean level file stands

end Store

end WordTally
