import WordTally.Proofs.Files.Proper
import WordTally.Proofs.Files.Standing

set_option autoImplicit false

namespace WordTally

namespace Path

/-- A name without slashes that is none of the dots which stand for directories. -/
structure IsPlain (name : String) : Prop where
  nonempty : name ≠ ""
  single : '/' ∉ name.toList
  named : Disk.isDots name = false

namespace IsPlain

variable {name : String}

theorem toList_ne_nil (plain : IsPlain name) : name.toList ≠ [] :=
  fun empty => plain.nonempty (String.toList_eq_nil_iff.mp empty)

theorem parts (plain : IsPlain name) : (⟨name⟩ : Path).parts = [name] := by
  have whole : Text.pieces '/' name.toList = [name.toList] := by
    refine List.splitOnP_eq_singleton fun c member => ?_
    simpa using fun same : c = '/' => plain.single (same ▸ member)
  unfold Path.parts
  rw [whole]
  simp [plain.toList_ne_nil]

theorem relative (plain : IsPlain name) : (⟨name⟩ : Path).startsWithSlash = false := by
  unfold startsWithSlash
  rw [beq_eq_false_iff_ne]
  exact fun begins => plain.single (List.mem_of_head? begins)

theorem parts_join (plain : IsPlain name) (dir : Path) :
    (dir.join name).parts = dir.parts ++ [name] := by
  rw [Path.parts_join plain.relative, plain.parts]

theorem level (plain : IsPlain name) (dir : Path) : (dir.join name).endsInSlash = false := by
  have ends : ∃ front, (dir.join name).text.toList = front ++ name.toList := by
    unfold join
    rw [plain.relative]
    simp only [Bool.false_eq_true, ↓reduceIte]
    split
    · exact ⟨dir.text.toList, String.toList_append⟩
    · exact ⟨dir.text.toList ++ "/".toList, by simp only [String.toList_append]⟩
  obtain ⟨front, text⟩ := ends
  unfold endsInSlash
  rw [text, List.getLast?_append_of_ne_nil _ plain.toList_ne_nil, beq_eq_false_iff_ne]
  exact fun last => plain.single (List.mem_of_getLast? last)

theorem isFileName (plain : IsPlain name) (short : name.utf8ByteSize ≤ Tree.longestName) :
    IsFileName name :=
  ⟨plain.relative, plain.parts, plain.named, short⟩

end IsPlain

end Path

namespace Tree

variable {tree later : Tree} {place top : Location} {onWay : Location → Prop} {entry : Entry}
  {parts : List String}

def content? (tree : Tree) (place : Location) : Option ByteArray :=
  match tree.at? place with
  | some (.file content) => some content
  | _ => none

theorem content?_congr (same : later.at? place = tree.at? place) :
    later.content? place = tree.content? place := by
  unfold content?
  rw [same]

theorem content?_put_other {other : Location} (apart : other ≠ place) :
    (tree.put place entry).content? other = tree.content? other :=
  content?_congr (at?_put_other apart)

theorem Paves.content?_eq (paves : Paves onWay tree later) (place : Location) :
    later.content? place = tree.content? place := by
  rcases paves.at?_eq place with same | ⟨absent, made, _⟩
  · exact content?_congr same
  · unfold content?
    rw [absent, made]

/-- A path still leads to its directory when something is put where nothing stood. -/
theorem Opens.put (opens : Opens parts top tree) (absent : tree.at? place = none) :
    Opens parts top (tree.put place entry) := by
  have kept : ∀ other, Firm tree other →
      (tree.put place entry).at? other = some .directory := by
    intro other firm
    rw [at?_put_other, firm.there]
    rintro rfl
    rw [firm.there] at absent
    cases absent
  obtain ⟨walked, firm⟩ := walk_of_firm_root kept opens.1
  exact ⟨walked, kept top (firm.of_tail opens.2)⟩

end Tree

namespace Disk

open WordTally.Tree

variable {disk after : Disk} {call : Call} {dir : Location} {content : ByteArray} {target : Path}
  {front : List String} {name : String}

/-- A file that is not put at its path leaves the tree as it was. -/
theorem replace_refused (sound : disk.tree.Sound) {error : OsError}
    (refused : disk.replace dir target content = (some error, after)) : after.tree = disk.tree := by
  unfold replace at refused
  split at refused
  · cases refused
    rfl
  · rename_i temporary probed made
    split at refused
    · cases refused
      exact makeTemporary_discard sound made
    · rename_i written filled
      split at refused
      · cases refused
        obtain ⟨source, rfl, absent, first⟩ := makeTemporary_tree made
        change written.tree.remove (source :: dir) = disk.tree
        rw [fill_tree filled, first, put_put, sound.remove_put absent]
      · cases refused

theorem replace_fits (named : target.parts = front ++ [name]) (goal : Path.goal front = dir)
    (replaced : disk.replace dir target content = (none, after)) :
    name.utf8ByteSize ≤ longestName ∧ disk.tree.at? (name :: dir) ≠ some .directory := by
  unfold replace at replaced
  split at replaced
  · cases replaced
  · rename_i temporary probed made
    obtain ⟨source, rfl, absent, first⟩ := makeTemporary_tree made
    split at replaced
    · cases replaced
    · rename_i written filled
      split at replaced
      · cases replaced
      · rename_i moved renamed
        obtain ⟨names, parent, walked, _, free, _⟩ := rename_tree named renamed
        obtain rfl : parent = dir := (eq_goal_of_walk walked).trans goal
        refine ⟨names.short, fun stands => free ?_⟩
        rw [fill_tree filled, first, put_put, at?_put_other, stands]
        intro same
        rw [same, absent] at stands
        cases stands

theorem change_of_calm (calm : disk.refusal call = none) (tree : Tree) :
    disk.change call tree = .ok (disk.setTree tree) := by
  unfold change
  rw [calm]

theorem exists_freeName {taken : String → Bool} {tries start number : Nat} (first : start ≤ number)
    (last : number < start + tries) (free : taken (".tmp" ++ toString number) = false) :
    ∃ name, freeName? taken tries start = some name := by
  induction tries generalizing start with
  | zero => omega
  | succ tries ih =>
    unfold freeName?
    dsimp only
    split
    · rename_i used
      have later : start ≠ number := by
        rintro rfl
        rw [free] at used
        cases used
      exact ih (by omega) (by omega)
    · exact ⟨_, rfl⟩

/-- One of the names that are tried for a temporary file is not taken. -/
def HasRoom (disk : Disk) (dir : Location) : Prop :=
  ∃ number, number < temporaryTries ∧ disk.tree.at? ((".tmp" ++ toString number) :: dir) = none

theorem makeTemporary_of_room (room : disk.HasRoom dir) (calm : disk.refusal call = none) :
    ∃ name, disk.makeTemporary call dir =
        .ok (name :: dir, disk.setTree (disk.tree.put (name :: dir) (.file .empty))) ∧
      disk.tree.at? (name :: dir) = none := by
  obtain ⟨number, within, free⟩ := room
  have untaken : (disk.tree.at? ((".tmp" ++ toString number) :: dir)).isSome = false := by
    rw [free]
    rfl
  obtain ⟨name, found⟩ : ∃ name, freeName? (fun name => (disk.tree.at? (name :: dir)).isSome)
      temporaryTries 0 = some name :=
    exists_freeName (Nat.zero_le number) (by omega) untaken
  refine ⟨name, ?_, by simpa using not_taken_of_freeName? found⟩
  unfold makeTemporary
  dsimp only
  rw [found]
  dsimp only
  rw [change_of_calm calm]

theorem fill_of_calm (calm : ∀ call, disk.refusal call = none) (place : Location)
    (content : ByteArray) :
    disk.fill place content = .ok (disk.setTree (disk.tree.put place (.file content))) := by
  unfold fill
  rw [change_of_calm (calm .write)]
  exact change_of_calm (calm .sync) _

theorem rename_of_calm (source : Location) (content : ByteArray)
    (names : NamesFile target front name) (opens : Opens front dir disk.tree)
    (free : disk.tree.at? (name :: dir) ≠ some .directory) (calm : disk.refusal .rename = none) :
    ∃ after, disk.rename dir source content target = .ok after := by
  have located : disk.tree.locate target.parts = .ok (dir, name) := by
    unfold locate
    rw [names.named, List.dropLast_concat, opens.1, List.getLast?_concat]
    dsimp only
    rw [opens.2]
    rfl
  have outside : (name :: dir).isSuffixOf dir = false := by
    rw [Bool.eq_false_iff, ne_eq, List.isSuffixOf_iff_suffix]
    intro below
    have longer := below.length_le
    rw [List.length_cons] at longer
    omega
  unfold rename
  rw [names.clean, located]
  dsimp only
  rw [if_neg (by simp [names.notDots]), if_neg (Nat.not_lt.mpr names.short),
    if_neg (by simp [names.level]), if_neg (by simp [outside]), if_neg free, change_of_calm calm]
  exact ⟨_, rfl⟩

theorem replace_of_calm (content : ByteArray) (names : NamesFile target front name)
    (opens : Opens front dir disk.tree) (free : disk.tree.at? (name :: dir) ≠ some .directory)
    (calm : ∀ call, disk.refusal call = none) (room : disk.HasRoom dir) :
    ∃ after, disk.replace dir target content = (none, after) := by
  obtain ⟨source, made, absent⟩ := makeTemporary_of_room room (calm (.makeTemporary dir))
  let probed := disk.setTree (disk.tree.put (source :: dir) (.file .empty))
  let written := probed.setTree (probed.tree.put (source :: dir) (.file content))
  have whole : written.tree = disk.tree.put (source :: dir) (.file content) := put_put _ _ _ _
  have still : written.tree.at? (name :: dir) ≠ some .directory := by
    rw [whole]
    by_cases here : name :: dir = source :: dir
    · rw [here, at?_put_same (List.cons_ne_nil _ _)]
      exact nofun
    · rwa [at?_put_other here]
  have calmProbed : ∀ call, probed.refusal call = none := calm
  have filled : probed.fill (source :: dir) content = .ok written :=
    fill_of_calm calmProbed (source :: dir) content
  have opensStill : Opens front dir written.tree := by
    rw [whole]
    exact opens.put absent
  obtain ⟨after, renamed⟩ :=
    rename_of_calm (source :: dir) content names opensStill still (calm .rename)
  refine ⟨after, ?_⟩
  unfold replace
  rw [made]
  dsimp only
  rw [filled]
  dsimp only
  rw [renamed]

end Disk

namespace Store

open WordTally.Tree

variable {disk after : Disk} {dir path : Path} {name content : String}

/-- A write that fails makes directories on the way of its path, and nothing else. -/
theorem write_refused (sound : disk.tree.Sound) {error : StoreError}
    (failed : write dir name content disk = (.error error, after)) :
    Paves (Path.Crosses dir.parts) disk.tree after.tree := by
  have paved := ensure_paves dir sound
  unfold write at failed
  split at failed
  · rename_i unusable
    rw [unusable] at paved
    cases failed
    exact paved
  · rename_i ready
    rw [ready] at paved
    split at failed
    · rename_i refused
      cases failed
      rw [Disk.replace_refused (paved.sound sound) refused]
      exact paved
    · cases failed

theorem write_fits (sound : disk.tree.Sound) (plain : Path.IsPlain name)
    (written : write dir name content disk = (.ok path, after)) :
    path = dir.join name ∧ Path.IsFileName name ∧
      disk.tree.at? (name :: Path.goal dir.parts) ≠ some .directory := by
  have paved := ensure_paves dir sound
  unfold write at written
  split at written
  · cases written
  · rename_i ensured
    rw [ensured] at paved
    obtain ⟨rfl, _⟩ := ensure_there ensured
    split at written
    · cases written
    · rename_i done
      cases written
      obtain ⟨fits, free⟩ := Disk.replace_fits (plain.parts_join dir) rfl done
      refine ⟨rfl, plain.isFileName fits, fun stands => ?_⟩
      rcases paved.at?_eq (name :: Path.goal dir.parts) with same | ⟨absent, _⟩
      · exact free (same.trans stands)
      · rw [absent] at stands
        cases stands

/-- Nothing stands in the way of a file: its directory is there and has room for a temporary file,
its path can be passed on, no directory has its place, and the system refuses nothing. -/
structure Unhindered (dir : Path) (name : String) (disk : Disk) : Prop where
  there : disk.tree.find dir = .ok (Path.goal dir.parts, .directory)
  room : disk.HasRoom (Path.goal dir.parts)
  clean : flaw? (dir.join name) = none
  short : name.utf8ByteSize ≤ longestName
  free : disk.tree.at? (name :: Path.goal dir.parts) ≠ some .directory
  calm : ∀ call, disk.refusal call = none

namespace Unhindered

theorem ensure_eq (unhindered : Unhindered dir name disk) (sound : disk.tree.Sound) :
    ensure dir disk = (.ok (Path.goal dir.parts), disk) := by
  obtain ⟨source, made, absent⟩ :=
    Disk.makeTemporary_of_room unhindered.room (unhindered.calm (.probe (Path.goal dir.parts)))
  have entered : enter dir disk = (.ok (Path.goal dir.parts), disk) := by
    unfold enter
    rw [unhindered.there]
  unfold ensure
  rw [entered]
  dsimp only
  rw [made]
  dsimp only
  unfold Disk.discard
  change (_, disk.setTree ((disk.tree.put _ _).remove _)) = _
  rw [sound.remove_put absent]
  rfl

theorem write_eq (unhindered : Unhindered dir name disk) (sound : disk.tree.Sound)
    (plain : Path.IsPlain name) (content : String) :
    (write dir name content disk).1 = .ok (dir.join name) := by
  have names : Disk.NamesFile (dir.join name) dir.parts name :=
    ⟨unhindered.clean, plain.parts_join dir, plain.level dir, plain.named, unhindered.short⟩
  obtain ⟨_, walked, there⟩ := find_ok unhindered.there
  obtain ⟨after, replaced⟩ := Disk.replace_of_calm content.toUTF8 names ⟨walked, there⟩
    unhindered.free unhindered.calm unhindered.room
  unfold write
  rw [unhindered.ensure_eq sound]
  dsimp only
  rw [replaced]

end Unhindered

/-- A file is replaced as a whole or not at all.

When a write succeeds, its content is what is then read, and every other file is as it was; in the
place of a directory it does not succeed. When it fails, whatever failed, every file has its former
content, and since there are no files but the former ones nothing temporary is left. It succeeds if
nothing stands in its way. -/
theorem write_replaces_or_keeps (dir : Path) (name content : String) (disk : Disk)
    (sound : disk.tree.Sound) (plain : Path.IsPlain name) :
    (∀ path, (write dir name content disk).1 = .ok path →
      path = dir.join name ∧
      read dir name (write dir name content disk).2.tree = .ok (some content) ∧
      disk.tree.at? (name :: Path.goal dir.parts) ≠ some .directory ∧
      ∀ place, place ≠ name :: Path.goal dir.parts →
        (write dir name content disk).2.tree.content? place = disk.tree.content? place) ∧
    (∀ error, (write dir name content disk).1 = .error error →
      ∀ place, (write dir name content disk).2.tree.content? place = disk.tree.content? place) ∧
    (Unhindered dir name disk → (write dir name content disk).1 = .ok (dir.join name)) := by
  refine ⟨fun path done => ?_, fun error failed place => ?_,
    fun unhindered => unhindered.write_eq sound plain content⟩
  · have written : write dir name content disk = (.ok path, (write dir name content disk).2) :=
      Prod.ext done rfl
    obtain ⟨same, file, free⟩ := write_fits sound plain written
    refine ⟨same, read_of_write file written, free, fun place apart => ?_⟩
    obtain ⟨paved, paves, after⟩ := write_done sound file written
    rw [after, content?_put_other apart, paves.content?_eq]
  · exact (write_refused sound (Prod.ext failed rfl)).content?_eq place

def settledDisk : Disk :=
  Disk.ofTree ⟨[(["s"], .directory), (["counts.ron", "s"], .file "old".toUTF8),
    (["note", "s"], .file "kept".toUTF8), (["old", "s"], .directory)]⟩

/-- The same disk when it is full: what is written to a file does not get down to the medium. -/
def fullDisk : Disk :=
  { settledDisk with refusal := fun call => if call = .sync then some .noSpace else none }

/-- The file is replaced on the one disk and kept on the other; the directory is not replaced. -/
theorem settledDisk_replaces_or_keeps :
    settledDisk.tree.Sound ∧ Path.IsPlain "counts.ron" ∧
      Unhindered ⟨"s"⟩ "counts.ron" settledDisk ∧
      (write ⟨"s"⟩ "counts.ron" "new" settledDisk).1 = .ok ⟨"s/counts.ron"⟩ ∧
      read ⟨"s"⟩ "counts.ron" (write ⟨"s"⟩ "counts.ron" "new" settledDisk).2.tree =
        .ok (some "new") ∧
      (write ⟨"s"⟩ "counts.ron" "new" settledDisk).2.tree.content? ["note", "s"] =
        some "kept".toUTF8 ∧
      (write ⟨"s"⟩ "counts.ron" "new" fullDisk).1 = .error (.io (.os .noSpace)) ∧
      (∀ place, (write ⟨"s"⟩ "counts.ron" "new" fullDisk).2.tree.content? place =
        settledDisk.tree.content? place) ∧
      Path.IsPlain "old" ∧
      (write ⟨"s"⟩ "old" "new" settledDisk).1 = .error (.io (.os .isDirectory)) ∧
      ∀ place, (write ⟨"s"⟩ "old" "new" settledDisk).2.tree.content? place =
        settledDisk.tree.content? place := by
  have sound : settledDisk.tree.Sound := by decide +kernel
  have plain : Path.IsPlain "counts.ron" := ⟨by decide, by decide, by decide⟩
  have plainOld : Path.IsPlain "old" := ⟨by decide, by decide, by decide⟩
  have unhindered : Unhindered ⟨"s"⟩ "counts.ron" settledDisk :=
    ⟨by decide +kernel, ⟨0, by decide, by decide +kernel⟩, by decide +kernel, by decide,
      by decide +kernel, fun _ => rfl⟩
  have full : (write ⟨"s"⟩ "counts.ron" "new" fullDisk).1 = .error (.io (.os .noSpace)) := by
    decide +kernel
  have taken : (write ⟨"s"⟩ "old" "new" settledDisk).1 = .error (.io (.os .isDirectory)) := by
    decide +kernel
  obtain ⟨replaced, _, succeeds⟩ :=
    write_replaces_or_keeps ⟨"s"⟩ "counts.ron" "new" settledDisk sound plain
  have done := succeeds unhindered
  obtain ⟨_, again, _, others⟩ := replaced _ done
  refine ⟨sound, plain, unhindered, done, again, others ["note", "s"] (by decide), full, ?_,
    plainOld, taken, ?_⟩
  · exact (write_replaces_or_keeps ⟨"s"⟩ "counts.ron" "new" fullDisk sound plain).2.1 _ full
  · exact (write_replaces_or_keeps ⟨"s"⟩ "old" "new" settledDisk sound plainOld).2.1 _ taken

end Store

end WordTally
