import WordTally.Proofs.Files.Standing
import WordTally.Proofs.Snapshot.Documents
import WordTally.Proofs.Snapshot.Isolation
import WordTally.Proofs.Tally.Sharding

set_option autoImplicit false

namespace WordTally

/-- The words of a tally with their counts make up that tally. -/
theorem Tally.ofList_toList (tally : Tally) : ofList tally.toList = tally := by
  ext1 word
  have raised := get?_foldl_raise tally.ascending empty word
  rw [get?_empty, Option.merge_none_left] at raised
  exact raised

namespace Snapshot

variable {stateDir dir : Path} {id time : String} {tally : Tally} {disk : Disk}

def loadedLine (time : String) (tally : Tally) : LogLine :=
  .info ("loaded " ++ toString tally.size ++ " words from snapshot saved at " ++ time)

/-- A snapshot that was saved is not mistaken for an empty file. -/
theorem text_ne_empty (snapshot : Snapshot) : snapshot.text ≠ "" := by
  intro empty
  have nothing : snapshot.text.toList = [] := congrArg String.toList empty
  rw [text, String.toList_ofList] at nothing
  cases nothing

theorem recover_text (dir : Path) (id time : String)
    (small : ∀ count ∈ tally.toList, count.2 ≤ Text.max64) :
    recover dir id (⟨id, time, tally.toList⟩ : Snapshot).text = (tally, loadedLine time tally) := by
  have read : ofText? (⟨id, time, tally.toList⟩ : Snapshot).text =
      some ⟨id, time, tally.toList⟩ := ofText?_text small
  rw [recover, read]
  simp only [ne_eq, not_true_eq_false, ↓reduceIte, Tally.ofList_toList, loadedLine]

theorem accepted_of_save {saved : Path × LogLine}
    (done : (save stateDir id time tally disk).1 = .ok saved) :
    ∃ dir, directory stateDir id = .ok dir := by
  unfold save at done
  split at done
  · cases done
  · rename_i dir accepted
    exact ⟨dir, accepted⟩

/-- A save that fails leaves every file as it was. -/
theorem save_keeps (failed : ¬ ∃ saved, (save stateDir id time tally disk).1 = .ok saved) :
    Tree.Keeps disk.tree (save stateDir id time tally disk).2.tree := by
  cases accepted : directory stateDir id with
  | error error =>
    unfold save
    rw [accepted]
    exact .refl _
  | ok dir =>
    rw [disk_of_save accepted]
    cases written : Store.write dir fileName (⟨id, time, tally.toList⟩ : Snapshot).text disk with
    | mk result after =>
      cases result with
      | error error => exact Store.write_keeps written
      | ok path =>
        refine absurd ?_ failed
        unfold save
        rw [accepted]
        dsimp only
        rw [written]
        exact ⟨_, rfl⟩

theorem read_of_save (accepted : directory stateDir id = .ok dir) {saved : Path × LogLine}
    (done : (save stateDir id time tally disk).1 = .ok saved) :
    Store.read dir fileName (save stateDir id time tally disk).2.tree =
      .ok (some (⟨id, time, tally.toList⟩ : Snapshot).text) := by
  obtain ⟨path, written⟩ := write_of_save accepted done
  exact Store.read_of_write fileName_isFileName written

theorem load_of_read {tree : Tree} (small : ∀ count ∈ tally.toList, count.2 ≤ Text.max64)
    (read : Store.read dir fileName tree =
      .ok (some (⟨id, time, tally.toList⟩ : Snapshot).text)) :
    load dir id tree = .ok (tally, loadedLine time tally) := by
  rw [load, read]
  exact congrArg Except.ok (recover_text dir id time small)

/-- A start after a save has exactly the tally that was saved, whatever stood on the disk. -/
theorem prepare_save (small : ∀ count ∈ tally.toList, count.2 ≤ Text.max64) {saved : Path × LogLine}
    (done : (save stateDir id time tally disk).1 = .ok saved) :
    (prepare stateDir id false (save stateDir id time tally disk).2).1 =
      .ok (tally, loadedLine time tally) := by
  obtain ⟨dir, accepted⟩ := accepted_of_save done
  rw [prepare_of_load accepted]
  exact load_of_read small (read_of_save accepted done)

/-- Words that need care: no character at all, marks that end a string or begin an escape, a control
character, a mark that joins the character before it, and characters of every length. -/
def oddTally : Tally :=
  Tally.ofList [("", 1), ("\"\\'\n", 18446744073709551615), ("e\u0301\u0007\u00e9\u65e5", 2)]

def usedDisk : Disk :=
  Disk.ofTree ⟨[(["counts.ron", "app"], .file "what is this".toUTF8), (["app"], .directory)]⟩

theorem oddTally_prepare_save :
    (prepare ⟨"app/../."⟩ "app" false
        (save ⟨"app/../."⟩ "app" "2024-05-01T00:00:00Z" oddTally usedDisk).2).1 =
      .ok (oddTally, .info "loaded 3 words from snapshot saved at 2024-05-01T00:00:00Z") := by
  have small : ∀ count ∈ oddTally.toList, count.2 ≤ Text.max64 := by decide +kernel
  have done : (save ⟨"app/../."⟩ "app" "2024-05-01T00:00:00Z" oddTally usedDisk).1 =
      .ok (⟨"app/.././app/counts.ron"⟩,
        .info "saved 3 words to \"app/.././app/counts.ron\"") := by
    decide +kernel
  exact prepare_save small done

end Snapshot

end WordTally
