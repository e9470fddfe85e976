import WordTally.Proofs.Files.Crossing

set_option autoImplicit false

namespace WordTally

namespace Tree

/-- Only what stands below a directory has changed. -/
def Inside (top : Location) (tree later : Tree) : Prop :=
  ∀ place, (∀ name, ¬ (name :: top) <:+ place) → later.at? place = tree.at? place

/-- Only what stands at a place and below it has changed, but for directories made on the way to
it. -/
def Spares (top : Location) (tree later : Tree) : Prop :=
  ∀ place, ¬ top <:+ place → later.at? place = tree.at? place ∨
    tree.at? place = none ∧ later.at? place = some .directory ∧ place <:+ top

/-- Everything stands in a directory. -/
def Sound (tree : Tree) : Prop :=
  ∀ name dir, tree.at? (name :: dir) ≠ none → tree.at? dir = some .directory

def Opens (parts : List String) (top : Location) (tree : Tree) : Prop :=
  tree.walk [] parts = .ok top ∧ tree.at? top = some .directory

/-- Directories are made at places on a way, each in one that is there. -/
inductive Paves (onWay : Location → Prop) (tree : Tree) : Tree → Prop where
  | nothing : Paves onWay tree tree
  | make {later : Tree} (name : String) (dir : Location)
      (earlier : Paves onWay tree later)
      (there : later.at? dir = some .directory)
      (absent : later.at? (name :: dir) = none)
      (crossed : onWay (name :: dir)) :
      Paves onWay tree (later.put (name :: dir) .directory)

/-- Entries of a directory are put there and removed. None is put in the place of a directory. -/
inductive Edits (top : Location) (tree : Tree) : Tree → Prop where
  | nothing : Edits top tree tree
  | put {later : Tree} (name : String) (entry : Entry)
      (earlier : Edits top tree later)
      (free : later.at? (name :: top) ≠ some .directory) :
      Edits top tree (later.put (name :: top) entry)
  | remove {later : Tree} (name : String)
      (earlier : Edits top tree later) :
      Edits top tree (later.remove (name :: top))

/-- Directories are made on a way, and then one that is there is worked in. -/
def Works (onWay : Location → Prop) (top : Location) (tree later : Tree) : Prop :=
  ∃ paved, Paves onWay tree paved ∧
    (later = paved ∨ paved.at? top = some .directory ∧ Edits top paved later)

variable {top dir place : Location} {onWay wider : Location → Prop} {tree later last : Tree}
  {name : String} {entry : Entry} {parts : List String}

namespace Inside

theorem keeps (inside : Inside top tree later) {place : Location} (above : place <:+ top) :
    later.at? place = tree.at? place := by
  apply inside
  intro name below
  have longer := (below.trans above).length_le
  rw [List.length_cons] at longer
  omega

theorem opens (inside : Inside top tree later) (leads : Path.Leads parts top)
    (opens : Opens parts top tree) : Opens parts top later := by
  refine ⟨?_, ?_⟩
  · rw [walk_congr_of_leads leads fun _ above => inside.keeps above, opens.1]
  · rw [inside.keeps (List.suffix_refl _), opens.2]

end Inside

namespace Sound

theorem put (sound : tree.Sound) (there : tree.at? dir = some .directory)
    (free : tree.at? (name :: dir) ≠ some .directory) :
    (tree.put (name :: dir) entry).Sound := by
  intro other parent stands
  have apart : parent ≠ name :: dir := by
    rintro rfl
    rw [at?_put_other (List.cons_ne_self _ _)] at stands
    exact free (sound other _ stands)
  rw [at?_put_other apart]
  by_cases here : other :: parent = name :: dir
  · rw [(List.cons.inj here).2, there]
  · rw [at?_put_other here] at stands
    exact sound other parent stands

theorem remove (sound : tree.Sound) (top : Location) : (tree.remove top).Sound := by
  intro name dir stands
  have outside : ¬ top <:+ name :: dir := by
    intro below
    exact stands (at?_remove_below below (List.cons_ne_nil _ _))
  rw [at?_remove_outside outside] at stands
  rw [at?_remove_outside fun below => outside (below.trans (List.suffix_cons _ _))]
  exact sound name dir stands

end Sound

namespace Edits

theorem trans (first : Edits top tree later) (second : Edits top later last) :
    Edits top tree last := by
  induction second with
  | nothing => exact first
  | put name entry earlier free ih => exact .put name entry ih free
  | remove name earlier ih => exact .remove name ih

theorem inside (edits : Edits top tree later) : Inside top tree later := by
  induction edits with
  | nothing => exact fun _ _ => rfl
  | put name entry earlier free ih =>
    intro place outside
    rw [at?_put_other, ih place outside]
    rintro rfl
    exact outside name (List.suffix_refl _)
  | remove name earlier ih =>
    intro place outside
    rw [at?_remove_outside (outside name), ih place outside]

theorem sound (edits : Edits top tree later) (there : tree.at? top = some .directory)
    (sound : tree.Sound) : later.Sound := by
  induction edits with
  | nothing => exact sound
  | put name entry earlier free ih =>
    exact ih.put ((earlier.inside.keeps (List.suffix_refl _)).trans there) free
  | remove name earlier ih => exact ih.remove _

end Edits

namespace Paves

theorem mono (paves : Paves onWay tree later) (widen : ∀ place, onWay place → wider place) :
    Paves wider tree later := by
  induction paves with
  | nothing => exact .nothing
  | make name dir earlier there absent crossed ih =>
    exact .make name dir ih there absent (widen _ crossed)

theorem at?_eq (paves : Paves onWay tree later) (place : Location) :
    later.at? place = tree.at? place ∨
      tree.at? place = none ∧ later.at? place = some .directory ∧ onWay place := by
  induction paves with
  | nothing => exact .inl rfl
  | make name dir earlier there absent crossed ih =>
    by_cases here : place = name :: dir
    · subst here
      rw [at?_put_same (List.cons_ne_nil _ _)]
      rcases ih with same | ⟨_, made, _⟩
      · exact .inr ⟨same ▸ absent, rfl, crossed⟩
      · rw [absent] at made
        cases made
    · rw [at?_put_other here]
      exact ih

theorem sound (paves : Paves onWay tree later) (sound : tree.Sound) : later.Sound := by
  induction paves with
  | nothing => exact sound
  | make name dir earlier there absent crossed ih =>
    refine ih.put there ?_
    rw [absent]
    exact nofun

end Paves

namespace Works

theorem of_paves (paves : Paves onWay tree later) : Works onWay top tree later :=
  ⟨later, paves, .inl rfl⟩

theorem edit (works : Works onWay top tree later) (there : later.at? top = some .directory)
    (edits : Edits top later last) : Works onWay top tree last := by
  obtain ⟨paved, paves, rfl | ⟨open_, earlier⟩⟩ := works
  · exact ⟨_, paves, .inr ⟨there, edits⟩⟩
  · exact ⟨paved, paves, .inr ⟨open_, earlier.trans edits⟩⟩

/-- Outside the directory that is worked in, only directories on the way are new. -/
theorem at?_eq (works : Works onWay top tree later) (outside : ∀ name, ¬ name :: top <:+ place) :
    later.at? place = tree.at? place ∨
      tree.at? place = none ∧ later.at? place = some .directory ∧ onWay place := by
  obtain ⟨paved, paves, rfl | ⟨_, edits⟩⟩ := works
  · exact paves.at?_eq place
  · rw [edits.inside place outside]
    exact paves.at?_eq place

theorem of_leads (works : Works (Path.Crosses parts) (Path.goal parts) tree later)
    (leads : Path.Leads parts top) : Works (· <:+ top) top tree later := by
  obtain ⟨paved, paves, after⟩ := works
  rw [leads.goal_eq] at after
  exact ⟨paved, paves.mono fun _ crosses => leads.suffix_of_crosses crosses, after⟩

/-- Work in a directory leaves everything beside it alone. -/
theorem spares (works : Works (· <:+ top) top tree later) : Spares top tree later := by
  intro place outside
  exact works.at?_eq fun name below => outside ((List.suffix_cons _ _).trans below)

theorem sound (works : Works onWay top tree later) (sound : tree.Sound) : later.Sound := by
  obtain ⟨paved, paves, rfl | ⟨there, edits⟩⟩ := works
  · exact paves.sound sound
  · exact edits.sound there (paves.sound sound)

end Works

theorem opens_of_leadsToDirectory (leads : Path.Leads parts top)
    (there : tree.leadsToDirectory parts = true) : Opens parts top tree := by
  unfold leadsToDirectory at there
  split at there
  · rename_i place walked
    have same := goal_of_walk leads walked
    subst same
    exact ⟨walked, by simpa using there⟩
  · cases there

theorem locate_ok {dir : Location} (located : tree.locate parts = .ok (dir, name)) :
    tree.walk [] parts.dropLast = .ok dir ∧ tree.at? dir = some .directory ∧
      name = parts.getLast?.getD Path.self := by
  unfold locate at located
  split at located
  · cases located
  · rename_i place walked
    split at located
    · cases located
    · cases located
    · rename_i there
      cases located
      exact ⟨walked, there, rfl⟩

end Tree

namespace Disk

open WordTally.Tree

variable {disk after : Disk} {call : Call} {tree : Tree} {dir place : Location}
  {onWay : Location → Prop} {parts : List String} {name : String}

theorem tree_of_change (changed : disk.change call tree = .ok after) : after.tree = tree := by
  unfold change at changed
  split at changed
  · cases changed
  · cases changed
    rfl

theorem makeDirectory_made (made : disk.makeDirectory parts = .ok after) :
    ∃ dir name, Path.goal parts = name :: dir ∧ disk.tree.at? dir = some .directory ∧
      disk.tree.at? (name :: dir) = none ∧
      after.tree = disk.tree.put (name :: dir) .directory := by
  unfold makeDirectory at made
  split at made
  · cases made
  · rename_i dir name located
    obtain ⟨walked, there, last⟩ := locate_ok located
    split at made
    · cases made
    · rename_i notDots
      split at made
      · cases made
      · split at made
        · cases made
        · rename_i absent
          have notDot : name ≠ Path.self ∧ name ≠ Path.above := by
            simpa [isDots] using notDots
          refine ⟨dir, name, ?_, there, by simpa using absent, tree_of_change made⟩
          -- Without parts it is the root that is meant, and its name is a dot.
          rcases List.eq_nil_or_concat parts with rfl | ⟨front, end_, rfl⟩
          · exact absurd last notDot.1
          · rw [List.concat_eq_append] at walked last ⊢
            rw [List.getLast?_concat, Option.getD_some] at last
            subst last
            rw [List.dropLast_concat] at walked
            rw [Path.goal_concat, ← eq_goal_of_walk walked, Path.onward, if_neg notDot.1,
              if_neg notDot.2]

theorem makeDirectory_opens (made : disk.makeDirectory parts = .ok after)
    (walked : after.tree.walk [] parts = .ok place) : after.tree.at? place = some .directory := by
  obtain ⟨dir, name, goal, _, _, same⟩ := makeDirectory_made made
  rw [eq_goal_of_walk walked, goal, same, at?_put_same (List.cons_ne_nil _ _)]

theorem makeDirectory_paves (crossed : onWay (Path.goal parts))
    (earlier : Paves onWay tree disk.tree) (made : disk.makeDirectory parts = .ok after) :
    Paves onWay tree after.tree := by
  obtain ⟨dir, name, goal, there, absent, same⟩ := makeDirectory_made made
  rw [same]
  rw [goal] at crossed
  exact .make name dir earlier there absent crossed

theorem makeEach_paves {list : List (List String)}
    (crossed : ∀ parts ∈ list, onWay (Path.goal parts)) :
    Paves onWay disk.tree (disk.makeEach list).2.tree := by
  induction list generalizing disk with
  | nil => exact .nothing
  | cons parts above ih =>
    obtain ⟨first, others⟩ := List.forall_mem_cons.mp crossed
    have earlier := @ih disk others
    unfold makeEach
    dsimp only
    split
    · rename_i after made
      exact makeDirectory_paves first .nothing made
    · split
      · rename_i error after stuck
        rw [stuck] at earlier
        exact earlier
      · rename_i after ready
        rw [ready] at earlier
        split
        · rename_i made
          exact makeDirectory_paves first earlier made
        · exact earlier
    · exact .nothing

theorem at?_of_settled {error : OsError}
    (quiet : (if disk.tree.leadsToDirectory parts then none else some error, disk) =
      ((none, after) : Option OsError × Disk))
    (walked : after.tree.walk [] parts = .ok place) : after.tree.at? place = some .directory := by
  split at quiet
  · rename_i there
    cases quiet
    simpa [leadsToDirectory, walked] using there
  · cases quiet

/-- When directories are made without an error, their path leads to a directory. -/
theorem makeEach_none {above : List (List String)}
    (made : disk.makeEach (parts :: above) = (none, after))
    (walked : after.tree.walk [] parts = .ok place) : after.tree.at? place = some .directory := by
  unfold makeEach at made
  dsimp only at made
  split at made
  · rename_i done
    cases made
    exact makeDirectory_opens done walked
  · split at made
    · cases made
    · split at made
      · rename_i done
        cases made
        exact makeDirectory_opens done walked
      · exact at?_of_settled made walked
  · exact at?_of_settled made walked

theorem crosses_of_mem_ancestors {above : List String}
    (member : above ∈ parts :: ancestors parts) : Path.Crosses parts (Path.goal above) := by
  rcases List.mem_cons.mp member with rfl | higher
  · exact Path.crosses_goal above
  · obtain ⟨count, _, rfl⟩ := List.mem_map.mp higher
    exact Path.crosses_of_essential (List.take_prefix count _)

/-- What is made for a path is on its way. -/
theorem makeDirectories_paves (disk : Disk) (path : Path) :
    Paves (Path.Crosses path.parts) disk.tree (disk.makeDirectories path).2.tree := by
  unfold makeDirectories
  split
  · exact .nothing
  · split
    · exact .nothing
    · exact makeEach_paves fun _ => crosses_of_mem_ancestors

theorem makeDirectories_none {path : Path}
    (made : disk.makeDirectories path = (none, after))
    (walked : after.tree.walk [] path.parts = .ok place) :
    after.tree.at? place = some .directory := by
  unfold makeDirectories at made
  split at made
  · rename_i empty
    rw [List.isEmpty_iff.mp empty] at walked
    cases walked
    rfl
  · split at made
    · cases made
    · exact makeEach_none made walked

variable {temporary other : Location} {content : ByteArray} {target : Path} {front : List String}

theorem makeTemporary_tree (made : disk.makeTemporary call dir = .ok (temporary, after)) :
    ∃ name, temporary = name :: dir ∧ disk.tree.at? temporary = none ∧
      after.tree = disk.tree.put temporary (.file .empty) := by
  unfold makeTemporary at made
  dsimp only at made
  split at made
  · cases made
  · rename_i name free
    split at made
    · cases made
    · rename_i changed
      cases made
      have absent := not_taken_of_freeName? free
      exact ⟨name, rfl, by simpa using absent, tree_of_change changed⟩

theorem makeTemporary_ok (made : disk.makeTemporary call dir = .ok (temporary, after)) :
    ∃ name, temporary = name :: dir ∧ Edits dir disk.tree after.tree ∧
      after.tree.at? temporary = some (.file .empty) := by
  obtain ⟨name, rfl, absent, same⟩ := makeTemporary_tree made
  rw [same]
  refine ⟨name, rfl, .put name _ .nothing ?_, at?_put_same (List.cons_ne_nil _ _)⟩
  rw [absent]
  exact nofun

theorem discard_edits (disk : Disk) (dir : Location) (name : String) :
    Edits dir disk.tree (disk.discard (name :: dir)).tree :=
  .remove name .nothing

theorem fill_tree (filled : disk.fill other content = .ok after) :
    after.tree = disk.tree.put other (.file content) := by
  unfold fill at filled
  split at filled
  · cases filled
  · rename_i changed
    rw [tree_of_change filled, tree_of_change changed]

theorem fill_ok (free : disk.tree.at? (name :: dir) ≠ some .directory)
    (filled : disk.fill (name :: dir) content = .ok after) :
    Edits dir disk.tree after.tree := by
  rw [fill_tree filled]
  exact .put name _ .nothing free

/-- A path under which a file can be put: it leads to a directory by its front, and then to a name
that a file can have. -/
structure NamesFile (target : Path) (front : List String) (name : String) : Prop where
  clean : flaw? target = none
  named : target.parts = front ++ [name]
  level : target.endsInSlash = false
  notDots : isDots name = false
  short : name.utf8ByteSize ≤ longestName

/-- A file that is moved to a path stands where the path leads, in a directory and in the place of
none. -/
theorem rename_tree (named : target.parts = front ++ [name])
    (renamed : disk.rename dir other content target = .ok after) :
    NamesFile target front name ∧ ∃ parent,
      disk.tree.walk [] front = .ok parent ∧ disk.tree.at? parent = some .directory ∧
        disk.tree.at? (name :: parent) ≠ some .directory ∧
        after.tree = (disk.tree.remove other).put (name :: parent) (.file content) := by
  unfold rename at renamed
  split at renamed
  · cases renamed
  · cases renamed
  · rename_i clean
    split at renamed
    · cases renamed
    · rename_i parent last located
      obtain ⟨walked, there, same⟩ := locate_ok located
      rw [named, List.dropLast_concat] at walked
      rw [named, List.getLast?_concat, Option.getD_some] at same
      subst same
      dsimp only at renamed
      split at renamed
      · cases renamed
      · rename_i notDots
        split at renamed
        · cases renamed
        · rename_i fits
          split at renamed
          · cases renamed
          · rename_i level
            split at renamed
            · cases renamed
            · split at renamed
              · cases renamed
              · rename_i free
                exact ⟨⟨clean, named, Bool.eq_false_iff.mpr level, Bool.eq_false_iff.mpr notDots,
                  Nat.not_lt.mp fits⟩, parent, walked, there, free, tree_of_change renamed⟩

theorem rename_ok {source : String} (named : target.parts = front ++ [name])
    (goal : Path.goal front = dir)
    (renamed : disk.rename dir (source :: dir) content target = .ok after) :
    Edits dir disk.tree after.tree ∧ Opens front dir disk.tree ∧
      after.tree.at? (name :: dir) = some (.file content) := by
  obtain ⟨_, parent, walked, there, free, same⟩ := rename_tree named renamed
  obtain rfl : parent = dir := (eq_goal_of_walk walked).trans goal
  rw [same]
  refine ⟨.put name _ (.remove source .nothing) ?_, ⟨walked, there⟩,
    at?_put_same (List.cons_ne_nil _ _)⟩
  by_cases below : source :: parent <:+ name :: parent
  · rw [at?_remove_below below (List.cons_ne_nil _ _)]
    exact nofun
  · rw [at?_remove_outside below]
    exact free

theorem replace_edits (disk : Disk) (content : ByteArray)
    (named : target.parts = front ++ [name]) (goal : Path.goal front = dir) :
    Edits dir disk.tree (disk.replace dir target content).2.tree := by
  unfold replace
  split
  · exact .nothing
  · rename_i temporary probed made
    obtain ⟨source, rfl, first, file⟩ := makeTemporary_ok made
    split
    · exact first.trans (discard_edits _ _ _)
    · rename_i filled written
      have free : probed.tree.at? (source :: dir) ≠ some .directory := by
        rw [file]
        exact nofun
      have second := first.trans (fill_ok free written)
      split
      · exact second.trans (discard_edits _ _ _)
      · rename_i renamed
        exact second.trans (rename_ok named goal renamed).1

theorem replace_none (named : target.parts = front ++ [name]) (leads : Path.Leads front dir)
    (replaced : disk.replace dir target content = (none, after)) :
    Opens front dir after.tree ∧ after.tree.at? (name :: dir) = some (.file content) := by
  unfold replace at replaced
  split at replaced
  · cases replaced
  · rename_i temporary probed made
    obtain ⟨source, rfl, _⟩ := makeTemporary_ok made
    split at replaced
    · cases replaced
    · split at replaced
      · cases replaced
      · rename_i renamed
        cases replaced
        obtain ⟨edits, opens, stands⟩ := rename_ok named leads.goal_eq renamed
        exact ⟨edits.inside.opens leads opens, stands⟩

end Disk

end WordTally
