import WordTally.Proofs.Files.Proper
import WordTally.Proofs.Snapshot.Isolation

set_option autoImplicit false

namespace WordTally.Snapshot

open WordTally.Tree

variable {stateDir dir : Path} {id time name : String} {tally : Tally} {disk : Disk}
  {place : Location}

theorem foldl_onward_of_self {dots : List String} (still : ∀ part ∈ dots, part = Path.self)
    (place : Location) : dots.foldl Path.onward place = place := by
  rw [← Path.foldl_onward_filter, filter_of_self still]
  rfl

namespace IsHome

theorem goal_append_name (named : Disk.isDots name = false) {dots : List String}
    (still : ∀ part ∈ dots, part = Path.self) :
    Path.goal (stateDir.parts ++ name :: dots) = name :: Path.goal stateDir.parts := by
  have notDot : name ≠ Path.self ∧ name ≠ Path.above := by
    simpa [Disk.isDots] using named
  rw [Path.goal, List.foldl_append, List.foldl_cons, foldl_onward_of_self still, Path.onward,
    if_neg notDot.1, if_neg notDot.2]
  rfl

theorem goal_eq (home : IsHome stateDir dir name) :
    Path.goal dir.parts = name :: Path.goal stateDir.parts := by
  obtain ⟨dots, still, parts⟩ := home.parts
  rw [parts, goal_append_name home.named still]

theorem crosses (home : IsHome stateDir dir name) (crosses : Path.Crosses dir.parts place) :
    Path.Crosses stateDir.parts place ∨ place = name :: Path.goal stateDir.parts := by
  obtain ⟨dots, still, parts⟩ := home.parts
  obtain ⟨front, begins, rfl⟩ := crosses
  rw [parts] at begins
  rcases List.prefix_or_prefix_of_prefix begins (List.prefix_append _ _) with within | beyond
  · exact .inl ⟨front, within, rfl⟩
  · -- Behind the state directory there is nothing but the name and dots that stay there.
    obtain ⟨rest, rfl⟩ := beyond
    rw [List.prefix_append_right_inj] at begins
    rcases List.prefix_cons_iff.mp begins with rfl | ⟨rest, rfl, inDots⟩
    · rw [List.append_nil]
      exact .inl (Path.crosses_goal _)
    · exact .inr (goal_append_name home.named fun part member => still part (inDots.subset member))

end IsHome

/-- Nothing has changed but what is in the directory at a place. That directory may be new, and so
may directories on the way of the state directory's path; if that path does not climb, these are the
ones above. -/
def Confined (stateDir : Path) (top : Location) (tree later : Tree) : Prop :=
  ∀ place, (∀ inner, ¬ inner :: top <:+ place) → later.at? place = tree.at? place ∨
    tree.at? place = none ∧ later.at? place = some .directory ∧
      (place = top ∨ Path.Crosses stateDir.parts place) ∧
      (stateDir.climbs = false → place <:+ top)

def IsBare (top : Location) (tree : Tree) : Prop :=
  tree.at? top = some .directory ∧ ∀ inner place, inner :: top <:+ place → tree.at? place = none

def wipedLine (dir : Path) (removed : Nat) : LogLine :=
  .info ("reset state directory " ++ dir.quoted ++ " (" ++ toString removed ++ " entries removed)")

theorem IsHome.confined (home : IsHome stateDir dir name) {tree later : Tree}
    (works : Works (Path.Crosses dir.parts) (Path.goal dir.parts) tree later) :
    Confined stateDir (name :: Path.goal stateDir.parts) tree later := by
  intro place outside
  rw [home.goal_eq] at works
  rcases works.at?_eq outside with same | ⟨absent, made, crossed⟩
  · exact .inl same
  · refine .inr ⟨absent, made, (home.crosses crossed).symm, fun level => ?_⟩
    obtain ⟨base, leads⟩ := Path.Leads.of_not_climbs level
    rw [leads.goal_eq]
    exact (home.leads leads).suffix_of_crosses crossed

/-- What the path of the state directory does not lead into stays as the way is made. -/
theorem IsHome.beside (home : IsHome stateDir dir name)
    (avoids : Path.Avoids stateDir.parts (name :: Path.goal stateDir.parts)) {inner : String}
    (below : inner :: name :: Path.goal stateDir.parts <:+ place) :
    ¬ Path.Crosses dir.parts place := by
  intro crossed
  rcases home.crosses crossed with way | rfl
  · exact avoids place way inner below
  · have longer := below.length_le
    rw [List.length_cons] at longer
    omega

theorem bare_of_reset (accepted : directory stateDir id = .ok dir)
    (home : IsHome stateDir dir name) (sound : disk.tree.Sound) {wiped : Tally × LogLine}
    (done : (prepare stateDir id true disk).1 = .ok wiped) :
    IsBare (name :: Path.goal stateDir.parts) (prepare stateDir id true disk).2.tree := by
  -- No entry is left, and in a sound tree nothing stands below what is not there.
  have after := (prepare_works accepted true disk).sound sound
  obtain ⟨count, reset⟩ := reset_of_prepare accepted done
  obtain ⟨nothing, ready, ensured, edits, _⟩ := Store.reset_clears reset
  have there := (Store.ensure_there ensured).2
  rw [← edits.inside.keeps (List.suffix_refl _)] at there
  rw [home.goal_eq] at nothing there
  exact ⟨there, fun inner place below => after.absent_below (nothing inner) below⟩

/-- As many entries are said to be gone as there were, unless the way made some. -/
theorem wiped_of_reset (accepted : directory stateDir id = .ok dir)
    (home : IsHome stateDir dir name) (proper : disk.tree.Proper)
    (avoids : Path.Avoids stateDir.parts (name :: Path.goal stateDir.parts))
    {wiped : Tally × LogLine} (done : (prepare stateDir id true disk).1 = .ok wiped) :
    wiped = (Tally.empty,
      wipedLine dir (disk.tree.names (name :: Path.goal stateDir.parts)).length) := by
  obtain ⟨count, reset⟩ := reset_of_prepare accepted done
  obtain ⟨paved, paves, counted⟩ := Store.reset_counts proper.sound reset
  rw [home.goal_eq, paves.length_names proper fun inner =>
    home.beside avoids (List.suffix_refl _)] at counted
  unfold prepare wipe at done
  rw [accepted] at done
  dsimp only at done
  rw [if_pos rfl, reset] at done
  cases done
  rw [counted]
  rfl

theorem at?_of_save (accepted : directory stateDir id = .ok dir)
    (home : IsHome stateDir dir name) (sound : disk.tree.Sound)
    (avoids : Path.Avoids stateDir.parts (name :: Path.goal stateDir.parts))
    {saved : Path × LogLine} (done : (save stateDir id time tally disk).1 = .ok saved)
    {inner : String} (below : inner :: name :: Path.goal stateDir.parts <:+ place)
    (other : place ≠ fileName :: name :: Path.goal stateDir.parts) :
    (save stateDir id time tally disk).2.tree.at? place = disk.tree.at? place := by
  obtain ⟨path, written⟩ := write_of_save accepted done
  obtain ⟨paved, paves, after⟩ := Store.write_done sound fileName_isFileName written
  rw [home.goal_eq] at after
  rw [after, at?_put_other other]
  rcases paves.at?_eq place with same | ⟨_, _, crossed⟩
  · exact same
  · exact absurd crossed (home.beside avoids below)

/-- On a disk with a proper tree, the tree is proper after a start. -/
theorem proper_of_prepare (proper : disk.tree.Proper) (reset : Bool) :
    (prepare stateDir id reset disk).2.tree.Proper := by
  cases accepted : directory stateDir id with
  | error error =>
    unfold prepare
    rw [accepted]
    exact proper
  | ok dir => exact (prepare_works accepted reset disk).proper proper

theorem proper_of_save (proper : disk.tree.Proper) :
    (save stateDir id time tally disk).2.tree.Proper := by
  cases accepted : directory stateDir id with
  | error error =>
    unfold save
    rw [accepted]
    exact proper
  | ok dir => exact (save_works accepted time tally disk).proper proper

/-- A start and a save are confined to a directory of the application's own.

An id is refused, and then nothing changes; or it is a plain name, and all that changes is what is
in the directory of that name in the state directory, which is made if it is missing, with the way
to it. A reset that succeeds leaves this directory bare. If the state directory's path does not
itself lead into it, the number that a reset reports is that of the entries it had, and a save that
succeeds changes no other entry but its file. -/
theorem persistence_confined (stateDir : Path) (id : String) (disk : Disk)
    (proper : disk.tree.Proper) :
    ((∀ reset, prepare stateDir id reset disk = (.error (.badId id), disk)) ∧
      ∀ time tally, save stateDir id time tally disk = (.error (.badId id), disk)) ∨
    ∃ name dir, directory stateDir id = .ok dir ∧
      Path.essential (⟨id⟩ : Path).parts = [name] ∧ Disk.isDots name = false ∧
      (∀ reset, Confined stateDir (name :: Path.goal stateDir.parts) disk.tree
        (prepare stateDir id reset disk).2.tree) ∧
      (∀ time tally, Confined stateDir (name :: Path.goal stateDir.parts) disk.tree
        (save stateDir id time tally disk).2.tree) ∧
      (∀ wiped, (prepare stateDir id true disk).1 = .ok wiped →
        IsBare (name :: Path.goal stateDir.parts) (prepare stateDir id true disk).2.tree) ∧
      (Path.Avoids stateDir.parts (name :: Path.goal stateDir.parts) →
        (∀ wiped, (prepare stateDir id true disk).1 = .ok wiped →
          ∃ former : List String, former.Nodup ∧
            (∀ inner, inner ∈ former ↔
              disk.tree.at? (inner :: name :: Path.goal stateDir.parts) ≠ none) ∧
            wiped = (Tally.empty, wipedLine dir former.length)) ∧
        ∀ time tally saved, (save stateDir id time tally disk).1 = .ok saved →
          ∀ inner place, inner :: name :: Path.goal stateDir.parts <:+ place →
            place ≠ fileName :: name :: Path.goal stateDir.parts →
            (save stateDir id time tally disk).2.tree.at? place = disk.tree.at? place) := by
  cases accepted : directory stateDir id with
  | error error =>
    have refused : error = .badId id := by
      unfold directory at accepted
      split at accepted
      · cases accepted
      · exact (Except.error.inj accepted).symm
    subst refused
    refine .inl ⟨fun reset => ?_, fun time tally => ?_⟩
    · unfold prepare
      rw [accepted]
    · unfold save
      rw [accepted]
  | ok dir =>
    obtain ⟨name, only, home⟩ := directory_ok accepted
    refine .inr ⟨name, dir, rfl, only, home.named, ?_, ?_, ?_, ?_⟩
    · intro reset
      exact home.confined (prepare_works accepted reset disk)
    · intro time tally
      exact home.confined (save_works accepted time tally disk)
    · intro wiped done
      exact bare_of_reset accepted home proper.sound done
    · intro avoids
      constructor
      · intro wiped done
        have counted := wiped_of_reset accepted home proper avoids done
        exact ⟨_, proper.nodup_names _, fun inner => mem_names_iff, counted⟩
      · intro time tally saved done inner place below other
        exact at?_of_save accepted home proper.sound avoids done below other

def nestedDisk : Disk :=
  Disk.ofTree ⟨[(["s"], .directory), (["app", "s"], .directory),
    (["counts.ron", "app", "s"], .file .empty), (["old", "app", "s"], .directory),
    (["deep", "old", "app", "s"], .directory), (["note", "deep", "old", "app", "s"], .file .empty),
    (["other", "s"], .directory), (["counts.ron", "other", "s"], .file .empty)]⟩

/-- A reset of `app` counts its file and the directory beside it, whatever that one holds. A save
leaves what that one holds. -/
theorem nestedDisk_confined :
    nestedDisk.tree.Proper ∧ Path.Avoids (⟨"s"⟩ : Path).parts ["app", "s"] ∧
      Confined ⟨"s"⟩ ["app", "s"] nestedDisk.tree (prepare ⟨"s"⟩ "app" true nestedDisk).2.tree ∧
      IsBare ["app", "s"] (prepare ⟨"s"⟩ "app" true nestedDisk).2.tree ∧
      (∃ former : List String, former.Nodup ∧
        (∀ inner, inner ∈ former ↔ nestedDisk.tree.at? [inner, "app", "s"] ≠ none) ∧
        wipedLine ⟨"s/app"⟩ 2 = wipedLine ⟨"s/app"⟩ former.length) ∧
      (save ⟨"s"⟩ "app" "-" Tally.empty nestedDisk).2.tree.at?
        ["note", "deep", "old", "app", "s"] = some (.file .empty) := by
  have proper : nestedDisk.tree.Proper := by decide +kernel
  have level : (⟨"s"⟩ : Path).climbs = false := by decide +kernel
  have avoids := Path.avoids_of_not_climbs level "app"
  have wiped : (prepare ⟨"s"⟩ "app" true nestedDisk).1 =
      .ok (Tally.empty, wipedLine ⟨"s/app"⟩ 2) := by
    decide +kernel
  have saved : (save ⟨"s"⟩ "app" "-" Tally.empty nestedDisk).1 =
      .ok (⟨"s/app/counts.ron"⟩, .info "saved 0 words to \"s/app/counts.ron\"") := by
    decide +kernel
  have parts : Path.essential (⟨"app"⟩ : Path).parts = ["app"] := by decide +kernel
  have home : directory ⟨"s"⟩ "app" = .ok ⟨"s/app"⟩ := by decide +kernel
  rcases persistence_confined ⟨"s"⟩ "app" nestedDisk proper with ⟨refused, _⟩ | found
  · rw [refused] at wiped
    cases wiped
  · obtain ⟨name, dir, accepted, only, _, kept, _, bare, spared⟩ := found
    obtain rfl : "app" = name := List.singleton_inj.mp (parts.symm.trans only)
    obtain rfl : ⟨"s/app"⟩ = dir := Except.ok.inj (home.symm.trans accepted)
    obtain ⟨counted, left⟩ := spared avoids
    obtain ⟨former, once, all, same⟩ := counted _ wiped
    refine ⟨proper, avoids, kept true, bare _ wiped, ⟨former, once, all, (Prod.mk.inj same).2⟩, ?_⟩
    exact left "-" Tally.empty _ saved "old" ["note", "deep", "old", "app", "s"]
      (List.suffix_append ["note", "deep"] _) (by decide)

/-- A directory that the path of the state directory leads back out of is made on the way and is
none of those above. If it lies in the application's directory, a reset counts it, though there was
nothing, and a save leaves it behind. -/
theorem detour_counted :
    (Disk.ofTree .empty).tree.Proper ∧
      (∀ place, place ≠ [] → (Disk.ofTree .empty).tree.at? place = none) ∧
      (prepare ⟨"s/x/.."⟩ "app" true (Disk.ofTree .empty)).1 =
        .ok (Tally.empty, wipedLine ⟨"s/x/../app"⟩ 0) ∧
      (prepare ⟨"s/x/.."⟩ "app" true (Disk.ofTree .empty)).2.tree.at? ["x", "s"] =
        some .directory ∧
      (prepare ⟨"s/app/x/../.."⟩ "app" true (Disk.ofTree .empty)).1 =
        .ok (Tally.empty, wipedLine ⟨"s/app/x/../../app"⟩ 1) ∧
      ∃ saved, (save ⟨"s/app/x/../.."⟩ "app" "-" Tally.empty (Disk.ofTree .empty)).1 = .ok saved ∧
        (save ⟨"s/app/x/../.."⟩ "app" "-" Tally.empty (Disk.ofTree .empty)).2.tree.at?
          ["x", "app", "s"] = some .directory := by
  have nothing : ∀ place, place ≠ [] → (Disk.ofTree .empty).tree.at? place = none := by
    intro place below
    cases place with
    | nil => exact absurd rfl below
    | cons => rfl
  refine ⟨by decide +kernel, nothing, by decide +kernel, by decide +kernel, by decide +kernel,
    (⟨"s/app/x/../../app/counts.ron"⟩, ?_), ?_, by decide +kernel⟩
  · exact .info "saved 0 words to \"s/app/x/../../app/counts.ron\""
  · decide +kernel

end WordTally.Snapshot
