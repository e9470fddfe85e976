import WordTally.Proofs.Files.Storing
import Mathlib.Data.List.Nodup
import Mathlib.Data.List.Perm.Basic

set_option autoImplicit false

namespace WordTally

namespace Tree

/-- Everything stands in a directory, and once. -/
structure Proper (tree : Tree) : Prop where
  sound : tree.Sound
  distinct : (tree.entries.map Prod.fst).Nodup

variable {top dir place : Location} {onWay : Location → Prop} {tree later : Tree} {name : String}
  {entry : Entry}

theorem at?_ne_none_of_mem (member : (place, entry) ∈ tree.entries) : tree.at? place ≠ none := by
  cases place with
  | nil => exact nofun
  | cons name dir =>
    intro absent
    exact bne_iff_ne.mp (List.lookup_eq_none_iff.mp absent _ member) rfl

theorem sound_iff :
    tree.Sound ↔ ∀ listed ∈ tree.entries, tree.at? listed.1.tail = some .directory := by
  constructor
  · rintro sound ⟨place, entry⟩ member
    cases place with
    | nil => rfl
    | cons name dir => exact sound name dir (at?_ne_none_of_mem member)
  · intro listed name dir there
    obtain ⟨entry, member⟩ := mem_lookup_of_ne_none there
    exact listed _ member

instance (tree : Tree) : Decidable tree.Sound := decidable_of_iff _ sound_iff.symm

theorem proper_iff : tree.Proper ↔ tree.Sound ∧ (tree.entries.map Prod.fst).Nodup :=
  ⟨fun proper => ⟨proper.sound, proper.distinct⟩, fun both => ⟨both.1, both.2⟩⟩

instance (tree : Tree) : Decidable tree.Proper := decidable_of_iff _ proper_iff.symm

theorem Sound.absent_below (sound : tree.Sound) (absent : tree.at? top = none)
    (below : top <:+ place) : tree.at? place = none := by
  induction place with
  | nil => rwa [← List.suffix_nil.mp below]
  | cons name dir ih =>
    rcases List.suffix_cons_iff.mp below with same | higher
    · rwa [← same]
    · by_contra there
      have directory := sound name dir there
      rw [ih higher] at directory
      cases directory

theorem Sound.remove_put (sound : tree.Sound) (absent : tree.at? top = none) :
    (tree.put top entry).remove top = tree := by
  have apart : ∀ listed ∈ tree.entries, ¬ top <:+ listed.1 := fun listed member below =>
    at?_ne_none_of_mem member (sound.absent_below absent below)
  have outside : (tree.entries.filter fun old => old.1 != top) = tree.entries := by
    rw [List.filter_eq_self]
    rintro listed member
    exact bne_iff_ne.mpr fun same => apart listed member (same ▸ List.suffix_refl _)
  unfold Tree.put Tree.remove
  rw [outside, List.filter_cons_of_neg (by simp)]
  congr 1
  rw [List.filter_eq_self]
  intro listed member
  simpa [List.isSuffixOf_iff_suffix, ← Bool.not_eq_true] using apart listed member

theorem put_put (tree : Tree) (place : Location) (first second : Entry) :
    (tree.put place first).put place second = tree.put place second := by
  unfold put
  rw [List.filter_cons_of_neg (by simp), List.filter_filter]
  simp only [Bool.and_self]

theorem mem_names_iff : name ∈ tree.names dir ↔ tree.at? (name :: dir) ≠ none := by
  refine ⟨fun listed => ?_, mem_names⟩
  obtain ⟨⟨place, entry⟩, member, found⟩ := List.mem_filterMap.mp listed
  cases place with
  | nil => cases found
  | cons first parent =>
    obtain ⟨rfl, same⟩ := Option.ite_none_right_eq_some.mp found
    cases same
    exact at?_ne_none_of_mem member

theorem Proper.nodup_names (proper : tree.Proper) (dir : Location) : (tree.names dir).Nodup := by
  have places : tree.entries.Pairwise fun first second => first.1 ≠ second.1 :=
    List.pairwise_map.mp proper.distinct
  apply List.pairwise_filterMap.mpr
  apply places.imp
  rintro ⟨first, _⟩ ⟨second, _⟩ apart one here two there rfl
  apply apart
  cases first with
  | nil => cases here
  | cons name parent =>
    cases second with
    | nil => cases there
    | cons other above =>
      obtain ⟨rfl, same⟩ := Option.ite_none_right_eq_some.mp here
      obtain ⟨rfl, alike⟩ := Option.ite_none_right_eq_some.mp there
      rw [Option.some.inj same, Option.some.inj alike]

theorem nodup_put (distinct : (tree.entries.map Prod.fst).Nodup) (place : Location)
    (entry : Entry) : ((tree.put place entry).entries.map Prod.fst).Nodup := by
  unfold put
  rw [List.map_cons, List.nodup_cons]
  refine ⟨fun member => ?_, distinct.sublist (List.filter_sublist.map _)⟩
  obtain ⟨listed, kept, same⟩ := List.mem_map.mp member
  exact bne_iff_ne.mp (List.mem_filter.mp kept).2 same

theorem nodup_remove (distinct : (tree.entries.map Prod.fst).Nodup) (top : Location) :
    ((tree.remove top).entries.map Prod.fst).Nodup :=
  distinct.sublist (List.filter_sublist.map _)

theorem Paves.proper (paves : Paves onWay tree later) (proper : tree.Proper) : later.Proper := by
  refine ⟨paves.sound proper.sound, ?_⟩
  induction paves with
  | nothing => exact proper.distinct
  | make name dir earlier there absent crossed ih => exact nodup_put ih _ _

theorem Edits.proper (edits : Edits top tree later) (there : tree.at? top = some .directory)
    (proper : tree.Proper) : later.Proper := by
  refine ⟨edits.sound there proper.sound, ?_⟩
  induction edits with
  | nothing => exact proper.distinct
  | put name entry earlier free ih => exact nodup_put ih _ _
  | remove name earlier ih => exact nodup_remove ih _

/-- Work in a directory leaves a proper tree. -/
theorem Works.proper (works : Works onWay top tree later) (proper : tree.Proper) :
    later.Proper := by
  obtain ⟨paved, paves, rfl | ⟨there, edits⟩⟩ := works
  · exact paves.proper proper
  · exact edits.proper there (paves.proper proper)

theorem Paves.length_names (paves : Paves onWay tree later) (proper : tree.Proper)
    (beside : ∀ name, ¬ onWay (name :: dir)) :
    (later.names dir).length = (tree.names dir).length := by
  apply List.Perm.length_eq
  rw [List.perm_ext_iff_of_nodup ((paves.proper proper).nodup_names dir) (proper.nodup_names dir)]
  intro name
  rw [mem_names_iff, mem_names_iff]
  rcases paves.at?_eq (name :: dir) with same | ⟨_, _, crossed⟩
  · rw [same]
  · exact absurd crossed (beside name)

end Tree

namespace Disk

open WordTally.Tree

variable {disk after : Disk} {call : Call} {dir temporary : Location} {content : ByteArray}
  {target : Path} {front : List String} {name : String}

/-- A temporary file that is given up leaves no trace. -/
theorem makeTemporary_discard (sound : disk.tree.Sound)
    (made : disk.makeTemporary call dir = .ok (temporary, after)) :
    (after.discard temporary).tree = disk.tree := by
  obtain ⟨name, rfl, absent, same⟩ := makeTemporary_tree made
  change after.tree.remove (name :: dir) = disk.tree
  rw [same, sound.remove_put absent]

/-- A file that is put at a path is all that changes. -/
theorem replace_done (sound : disk.tree.Sound) (named : target.parts = front ++ [name])
    (goal : Path.goal front = dir)
    (replaced : disk.replace dir target content = (none, after)) :
    after.tree = disk.tree.put (name :: dir) (.file content) := by
  unfold replace at replaced
  split at replaced
  · cases replaced
  · rename_i temporary probed made
    obtain ⟨source, rfl, absent, first⟩ := makeTemporary_tree made
    split at replaced
    · cases replaced
    · rename_i written filled
      split at replaced
      · cases replaced
      · rename_i moved renamed
        cases replaced
        obtain ⟨_, parent, walked, _, _, last⟩ := rename_tree named renamed
        obtain rfl : parent = dir := (eq_goal_of_walk walked).trans goal
        rw [last, fill_tree filled, first, put_put, sound.remove_put absent]

end Disk

namespace Store

open WordTally.Tree

variable {disk after : Disk} {dir path : Path} {name content : String}

/-- To get a directory ready makes the directories on its way, and nothing else. -/
theorem ensure_paves (dir : Path) (sound : disk.tree.Sound) :
    Paves (Path.Crosses dir.parts) disk.tree (ensure dir disk).2.tree := by
  have paved := enter_paves dir disk
  unfold ensure
  split
  · rename_i failed
    rw [failed] at paved
    exact paved
  · rename_i entered
    rw [entered] at paved
    split
    · exact paved
    · rename_i made
      rw [Disk.makeTemporary_discard (paved.sound sound) made]
      exact paved

/-- As many entries are gone after a reset as the directory had when it was ready. -/
theorem reset_counts (sound : disk.tree.Sound) {count : Nat}
    (done : reset dir disk = (.ok count, after)) :
    ∃ paved, Paves (Path.Crosses dir.parts) disk.tree paved ∧
      count = (paved.names (Path.goal dir.parts)).length := by
  obtain ⟨_, ready, ensured, _, counted⟩ := reset_clears done
  have paved := ensure_paves dir sound
  rw [ensured] at paved
  exact ⟨ready.tree, paved, counted⟩

theorem write_done (sound : disk.tree.Sound) (file : Path.IsFileName name)
    (written : write dir name content disk = (.ok path, after)) :
    ∃ paved, Paves (Path.Crosses dir.parts) disk.tree paved ∧
      after.tree = paved.put (name :: Path.goal dir.parts) (.file content.toUTF8) := by
  have paved := ensure_paves dir sound
  unfold write at written
  split at written
  · cases written
  · rename_i place ready ensured
    rw [ensured] at paved
    obtain ⟨rfl, _⟩ := ensure_there ensured
    split at written
    · cases written
    · rename_i done
      cases written
      exact ⟨ready.tree, paved,
        Disk.replace_done (paved.sound sound) (parts_join_name file) rfl done⟩

end Store

end WordTally
