import WordTally.Proofs.Files.Apart
import WordTally.Proofs.Files.Storing
import WordTally.Snapshot.Storage

set_option autoImplicit false

namespace WordTally.Snapshot

open WordTally.Tree

variable {stateDir dir : Path} {id time : String} {tally : Tally} {disk : Disk} {base : Location}

theorem fileName_isFileName : Path.IsFileName fileName where
  relative := by decide
  single := by decide
  named := by decide
  short := by decide

theorem not_above_of_self {dots : List String} (still : ∀ part ∈ dots, part = Path.self) :
    Path.above ∉ dots := by
  intro member
  exact absurd (still _ member) (by decide)

theorem filter_of_self {dots : List String} (still : ∀ part ∈ dots, part = Path.self) :
    dots.filter (· ≠ Path.self) = [] := by
  apply List.filter_eq_nil_iff.mpr
  intro part member
  simpa using still part member

theorem walk_of_self {tree : Tree} {place : Location} {dots : List String}
    (still : ∀ part ∈ dots, part = Path.self) (there : tree.at? place = some .directory) :
    tree.walk place dots = .ok place := by
  induction dots with
  | nil => rfl
  | cons part rest ih =>
    rw [walk_cons, there]
    dsimp only
    rw [if_pos (still part List.mem_cons_self)]
    exact ih fun next member => still next (List.mem_cons_of_mem _ member)

/-- A path leads to the directory of a name, with only single dots behind the name. -/
structure IsHome (stateDir dir : Path) (name : String) : Prop where
  named : Disk.isDots name = false
  parts : ∃ dots, (∀ part ∈ dots, part = Path.self) ∧ dir.parts = stateDir.parts ++ name :: dots

/-- An id that is accepted is a name, with nothing behind it but slashes and single dots. -/
theorem directory_ok (accepted : directory stateDir id = .ok dir) :
    ∃ name, Path.essential (⟨id⟩ : Path).parts = [name] ∧ IsHome stateDir dir name := by
  unfold directory at accepted
  split at accepted
  · rename_i plain
    cases accepted
    unfold Path.isPlainName at plain
    split at plain
    · rename_i name only
      simp only [Bool.and_eq_true, Bool.not_eq_true', decide_eq_true_eq] at plain
      obtain ⟨⟨relative, notSelf⟩, notAbove⟩ := plain
      cases parts : (⟨id⟩ : Path).parts with
      | nil =>
        rw [parts] at only
        cases only
      | cons first rest =>
        rw [parts] at only
        obtain ⟨rfl, nothing⟩ := List.cons.inj only
        refine ⟨first, by rw [← parts, parts, only], ?_, rest, ?_, ?_⟩
        · simp [Disk.isDots, notSelf, notAbove]
        · intro part member
          have dropped := List.filter_eq_nil_iff.mp nothing part member
          simpa using dropped
        · rw [Path.parts_join relative, parts]
    · cases plain
  · cases accepted

namespace IsHome

variable {name : String} {other : Path} {top : Location} {tree : Tree}

theorem leads (home : IsHome stateDir dir name) (leads : Path.Leads stateDir.parts base) :
    Path.Leads dir.parts (name :: base) := by
  obtain ⟨named, dots, still, parts⟩ := home
  have notDot : name ≠ Path.self ∧ name ≠ Path.above := by
    simpa [Disk.isDots] using named
  have level : Path.above ∉ name :: dots := by
    rw [List.mem_cons]
    exact fun member => member.elim (fun same => notDot.2 same.symm) (not_above_of_self still)
  have goal := leads.append level
  rw [List.filter_cons_of_pos (by simpa using notDot.1), filter_of_self still] at goal
  rw [parts]
  exact goal

/-- Two paths to one name lead to the same directory. -/
theorem opens (mine : IsHome stateDir dir name) (its : IsHome stateDir other name)
    (opens : Opens dir.parts top tree) : Opens other.parts top tree := by
  obtain ⟨_, dots, still, parts⟩ := mine
  obtain ⟨_, more, alike, others⟩ := its
  obtain ⟨walked, there⟩ := opens
  rw [parts, List.append_cons, walk_append] at walked
  rw [others, List.append_cons]
  refine ⟨?_, there⟩
  rw [walk_append]
  cases front : tree.walk [] (stateDir.parts ++ [name]) with
  | error error =>
    rw [front] at walked
    cases walked
  | ok place =>
    rw [front] at walked
    have ends := walk_ok (not_above_of_self still) walked
    rw [filter_of_self still] at ends
    have same : top = place := ends
    subst same
    exact walk_of_self alike there

end IsHome

theorem disk_of_save (accepted : directory stateDir id = .ok dir) :
    (save stateDir id time tally disk).2 =
      (Store.write dir fileName (⟨id, time, tally.toList⟩ : Snapshot).text disk).2 := by
  unfold save
  rw [accepted]
  dsimp only
  split
  · rename_i failed
    rw [failed]
  · rename_i done
    rw [done]

theorem disk_of_reset (accepted : directory stateDir id = .ok dir) :
    (prepare stateDir id true disk).2 = (Store.reset dir disk).2 := by
  unfold prepare wipe
  rw [accepted]
  dsimp only
  rw [if_pos rfl]
  split
  · rename_i failed
    rw [failed]
  · rename_i done
    rw [done]

theorem disk_of_load (stateDir : Path) (id : String) (disk : Disk) :
    (prepare stateDir id false disk).2 = disk := by
  unfold prepare
  cases directory stateDir id <;> rfl

theorem prepare_of_load (accepted : directory stateDir id = .ok dir) :
    (prepare stateDir id false disk).1 = load dir id disk.tree := by
  unfold prepare
  rw [accepted]
  rfl

theorem reset_of_prepare (accepted : directory stateDir id = .ok dir)
    {wiped : Tally × LogLine} (done : (prepare stateDir id true disk).1 = .ok wiped) :
    ∃ count, Store.reset dir disk = (.ok count, (prepare stateDir id true disk).2) := by
  rw [disk_of_reset accepted]
  unfold prepare wipe at done
  rw [accepted] at done
  dsimp only at done
  rw [if_pos rfl] at done
  split at done
  · cases done
  · rename_i count after reset
    exact ⟨count, by rw [reset]⟩

theorem write_of_save (accepted : directory stateDir id = .ok dir) {saved : Path × LogLine}
    (done : (save stateDir id time tally disk).1 = .ok saved) :
    ∃ path, Store.write dir fileName (⟨id, time, tally.toList⟩ : Snapshot).text disk =
      (.ok path, (save stateDir id time tally disk).2) := by
  rw [disk_of_save accepted]
  unfold save at done
  rw [accepted] at done
  dsimp only at done
  split at done
  · cases done
  · rename_i path after written
    exact ⟨path, by rw [written]⟩

theorem save_works (accepted : directory stateDir id = .ok dir) (time : String) (tally : Tally)
    (disk : Disk) :
    Works (Path.Crosses dir.parts) (Path.goal dir.parts) disk.tree
      (save stateDir id time tally disk).2.tree := by
  rw [disk_of_save accepted]
  exact Store.write_works_along dir disk fileName_isFileName _

theorem prepare_works (accepted : directory stateDir id = .ok dir) (reset : Bool) (disk : Disk) :
    Works (Path.Crosses dir.parts) (Path.goal dir.parts) disk.tree
      (prepare stateDir id reset disk).2.tree := by
  cases reset with
  | true =>
    rw [disk_of_reset accepted]
    exact Store.reset_works_along dir disk
  | false =>
    rw [disk_of_load]
    exact .of_paves .nothing

/-- Work in the directory of one application does not change what another one loads. -/
theorem load_of_spares {tree later : Tree} {mine name : String}
    (leads : Path.Leads stateDir.parts base) (spares : Spares (mine :: base) tree later)
    (apart : name ≠ mine) (home : IsHome stateDir dir name)
    (ready : tree.leadsToDirectory stateDir.parts = true ∨
      tree.Sound ∧ ∀ part ∈ stateDir.parts ++ [name], part.utf8ByteSize ≤ longestName) :
    load dir id later = load dir id tree := by
  obtain ⟨dots, still, parts⟩ := home.parts
  have file : (dir.join fileName).parts = stateDir.parts ++ name :: (dots ++ [fileName]) := by
    rw [Store.parts_join_name fileName_isFileName, parts, List.append_assoc, List.cons_append]
  have levelRest : Path.above ∉ dots ++ [fileName] := by
    rw [List.mem_append]
    exact fun member => member.elim (not_above_of_self still) (by decide)
  have same : Store.read dir fileName later = Store.read dir fileName tree := by
    apply Store.read_congr
    · have opens := ready.imp_left (opens_of_leadsToDirectory leads)
      obtain ⟨front, names, begins, flat, level, goes⟩ := leads
      rw [begins] at opens
      rw [Opens, walk_dots flat] at opens
      rw [file, begins, List.append_assoc, walk_dots flat, walk_dots flat]
      refine walk_beside spares apart level home.named levelRest (by simp) ?_ (opens.imp_right ?_)
      · rw [goes, List.append_nil]
      · refine fun known => ⟨known.1, fun part member => known.2 part ?_⟩
        rw [List.append_assoc]
        exact List.mem_append_right _ member
    · intro place walked
      have plain : Path.above ∉ [fileName] := by decide
      have goal := (home.leads leads).append plain
      rw [Store.parts_join_name fileName_isFileName] at walked
      rw [goal_of_walk goal walked]
      apply spares.beside apart
      exact List.suffix_append _ _
  unfold load
  rw [same]

theorem getLast?_file (dir : Path) :
    (dir.join fileName).text.toList.getLast? = some 'n' := by
  have last : fileName.toList.getLast? = some 'n' := by decide
  unfold Path.join
  rw [fileName_isFileName.relative]
  split
  · rename_i slash
    cases slash
  · split
    · rw [String.toList_append, List.getLast?_append, last]
      rfl
    · rw [String.toList_append, List.getLast?_append, last]
      rfl

theorem clean_of_load {tree : Tree} {started : Tally × LogLine}
    (loaded : load dir id tree = .ok started) : flaw? (dir.join fileName) = none := by
  cases flaw : flaw? (dir.join fileName) with
  | none => rfl
  | some error =>
    have written : error ≠ .notFound := by
      rintro rfl
      unfold flaw? at flaw
      split at flaw
      · cases flaw
      · split at flaw
        · rename_i empty
          have last := getLast?_file dir
          rw [String.isEmpty_iff.mp empty] at last
          cases last
        · split at flaw <;> cases flaw
    have refused : Store.read dir fileName tree = .error (.io (.os error)) := by
      unfold Store.read find
      rw [flaw]
      cases error <;> first | rfl | exact absurd rfl written
    unfold load at loaded
    rw [refused] at loaded
    cases loaded

/-- A snapshot is gone for every id that leads to the directory that was reset. -/
theorem load_of_reset {other : Path} {count : Nat} {after : Disk} {name : String} {tree : Tree}
    {started : Tally × LogLine} (leads : Path.Leads stateDir.parts base)
    (mine : IsHome stateDir dir name) (its : IsHome stateDir other name)
    (done : Store.reset dir disk = (.ok count, after)) (loaded : load other id tree = .ok started) :
    load other id after.tree =
      .ok (Tally.empty, .info ("no snapshot in " ++ other.quoted ++ "; starting empty")) := by
  obtain ⟨opens, nothing⟩ := Store.reset_ok (mine.leads leads) done
  have absent := Store.read_absent (mine.opens its opens) (clean_of_load loaded)
    fileName_isFileName (nothing fileName)
  unfold load
  rw [absent]

/-- A snapshot that was saved is read under every id that leads to its directory. -/
theorem load_of_write {other path : Path} {after : Disk} {name text : String} {tree : Tree}
    {started : Tally × LogLine} (leads : Path.Leads stateDir.parts base)
    (mine : IsHome stateDir dir name) (its : IsHome stateDir other name)
    (done : Store.write dir fileName text disk = (.ok path, after))
    (loaded : load other id tree = .ok started) :
    load other id after.tree = .ok (recover other id text) := by
  obtain ⟨opens, stands⟩ := Store.write_ok (mine.leads leads) fileName_isFileName done
  have ending : (other.join fileName).endsInSlash = false := by
    unfold Path.endsInSlash
    rw [getLast?_file]
    rfl
  have there := Store.read_file (mine.opens its opens) (clean_of_load loaded) ending
    fileName_isFileName stands
  unfold load
  rw [there]

/-- Applications are kept apart by the names in their ids, and by nothing else.

If the names differ, neither a save nor a reset under one id changes what the other id starts from.
If they do not, each reset under one id that succeeds wipes the snapshot of the other, and each save
replaces it. The path of the state directory must not lead back out of a directory that it names.
The state directory is there, or everything on the disk stands in a directory and no name on the way
to the other application is too long. -/
theorem prepare_apart {x y : String} {dirX dirY : Path}
    (acceptedX : directory stateDir x = .ok dirX) (acceptedY : directory stateDir y = .ok dirY)
    (level : stateDir.climbs = false)
    (ready : disk.tree.leadsToDirectory stateDir.parts = true ∨
      disk.tree.Sound ∧
        ∀ part ∈ stateDir.parts ++ Path.essential (⟨y⟩ : Path).parts,
          part.utf8ByteSize ≤ longestName) :
    (Path.essential (⟨x⟩ : Path).parts ≠ Path.essential (⟨y⟩ : Path).parts →
      (∀ time tally, (prepare stateDir y false (save stateDir x time tally disk).2).1 =
        (prepare stateDir y false disk).1) ∧
      (prepare stateDir y false (prepare stateDir x true disk).2).1 =
        (prepare stateDir y false disk).1) ∧
    (Path.essential (⟨x⟩ : Path).parts = Path.essential (⟨y⟩ : Path).parts →
      ∀ started, (prepare stateDir y false disk).1 = .ok started →
        (∀ time tally saved, (save stateDir x time tally disk).1 = .ok saved →
          (prepare stateDir y false (save stateDir x time tally disk).2).1 =
            .ok (recover dirY y (⟨x, time, tally.toList⟩ : Snapshot).text)) ∧
        ∀ wiped, (prepare stateDir x true disk).1 = .ok wiped →
          (prepare stateDir y false (prepare stateDir x true disk).2).1 =
            .ok (Tally.empty,
              .info ("no snapshot in " ++ dirY.quoted ++ "; starting empty"))) := by
  obtain ⟨base, leads⟩ := Path.Leads.of_not_climbs level
  obtain ⟨nameX, onlyX, homeX⟩ := directory_ok acceptedX
  obtain ⟨nameY, onlyY, homeY⟩ := directory_ok acceptedY
  have leadsX := homeX.leads leads
  simp only [prepare_of_load acceptedY]
  refine ⟨fun differ => ?_, fun same started loaded => ?_⟩
  · have apart : nameY ≠ nameX := by
      rintro rfl
      exact differ (onlyX.trans onlyY.symm)
    rw [onlyY] at ready
    refine ⟨fun time tally => ?_, ?_⟩
    · refine load_of_spares leads ?_ apart homeY ready
      rw [disk_of_save acceptedX]
      exact (Store.write_works disk leadsX fileName_isFileName _).spares
    · refine load_of_spares leads ?_ apart homeY ready
      rw [disk_of_reset acceptedX]
      exact (Store.reset_works disk leadsX).spares
  · have name : nameX = nameY := List.singleton_inj.mp (onlyX.symm.trans (same.trans onlyY))
    subst name
    refine ⟨fun time tally saved done => ?_, fun wiped done => ?_⟩
    · obtain ⟨path, written⟩ := write_of_save acceptedX done
      exact load_of_write leads homeX homeY written loaded
    · obtain ⟨count, reset⟩ := reset_of_prepare acceptedX done
      exact load_of_reset leads homeX homeY reset loaded

def savedApp : Disk :=
  (save ⟨"s"⟩ "app" "2024-05-01T00:00:00Z" (Tally.ofList [("kafka", 3)]) (Disk.ofTree .empty)).2

/-- A reset for `other` leaves what `app` has saved, and a reset for `app/` does not. -/
theorem savedApp_wiped_by_slash :
    (prepare ⟨"s"⟩ "app" false savedApp).1 = .ok (Tally.ofList [("kafka", 3)],
        .info "loaded 1 words from snapshot saved at 2024-05-01T00:00:00Z") ∧
      (prepare ⟨"s"⟩ "app" false (prepare ⟨"s"⟩ "other" true savedApp).2).1 =
        (prepare ⟨"s"⟩ "app" false savedApp).1 ∧
      (prepare ⟨"s"⟩ "app" false (prepare ⟨"s"⟩ "app/" true savedApp).2).1 =
        .ok (Tally.empty, .info "no snapshot in \"s/app\"; starting empty") := by
  have loaded : (prepare ⟨"s"⟩ "app" false savedApp).1 = .ok (Tally.ofList [("kafka", 3)],
      .info "loaded 1 words from snapshot saved at 2024-05-01T00:00:00Z") := by
    decide +kernel
  have there : savedApp.tree.leadsToDirectory ["s"] = true := by decide +kernel
  have wiped : (prepare ⟨"s"⟩ "app/" true savedApp).1 = .ok (Tally.empty,
      .info "reset state directory \"s/app/\" (1 entries removed)") := by
    decide +kernel
  have app : directory ⟨"s"⟩ "app" = .ok ⟨"s/app"⟩ := by decide +kernel
  have slash : directory ⟨"s"⟩ "app/" = .ok ⟨"s/app/"⟩ := by decide +kernel
  have other : directory ⟨"s"⟩ "other" = .ok ⟨"s/other"⟩ := by decide +kernel
  have level : (⟨"s"⟩ : Path).climbs = false := by decide +kernel
  refine ⟨loaded, ?_, ?_⟩
  · exact ((prepare_apart other app level (.inl there)).1 (by decide +kernel)).2
  · exact ((prepare_apart slash app level (.inl there)).2 (by decide +kernel) _ loaded).2 _ wiped

end WordTally.Snapshot
