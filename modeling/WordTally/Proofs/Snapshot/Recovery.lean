import WordTally.Proofs.Snapshot.RoundTrip
import WordTally.Proofs.Tally.Listing

set_option autoImplicit false

namespace WordTally.Snapshot

variable {stateDir dir : Path} {id text : String} {disk : Disk} {place : Location}
  {content : ByteArray}

theorem toUTF8_of_fromUTF8? (decoded : String.fromUTF8? content = some text) :
    content = text.toUTF8 := by
  unfold String.fromUTF8? at decoded
  split at decoded
  · cases decoded
    rfl
  · cases decoded

theorem load_of_octets {tree : Tree}
    (found : tree.find (dir.join fileName) = .ok (place, .file content))
    (foreign : ¬ ∃ text : String, content = text.toUTF8) :
    load dir id tree = .error (.read dir (.io .notUtf8)) := by
  have undecoded : String.fromUTF8? content = none := by
    by_contra decoded
    obtain ⟨text, same⟩ := Option.ne_none_iff_exists'.mp decoded
    exact foreign ⟨text, toUTF8_of_fromUTF8? same⟩
  unfold load Store.read
  rw [found]
  dsimp only
  rw [undecoded]

theorem load_of_text {tree : Tree}
    (found : tree.find (dir.join fileName) = .ok (place, .file text.toUTF8)) :
    load dir id tree = .ok (recover dir id text) := by
  unfold load Store.read
  rw [found]
  dsimp only
  rw [Store.fromUTF8?_toUTF8]

/-- A text that is none of the application's snapshots is passed over with a warning. -/
theorem recover_of_foreign (dir : Path)
    (foreign : ∀ snapshot, ofText? text = some snapshot → snapshot.applicationId ≠ id) :
    ∃ warning, recover dir id text = (Tally.empty, .warn warning) := by
  unfold recover
  split
  · exact ⟨_, rfl⟩
  · rename_i snapshot parsed
    rw [if_pos (foreign snapshot parsed)]
    exact ⟨_, rfl⟩

theorem recover_of_own {snapshot : Snapshot} (parsed : ofText? text = some snapshot)
    (own : snapshot.applicationId = id) :
    recover dir id text = (Tally.ofList snapshot.counts,
      loadedLine snapshot.savedUtc (Tally.ofList snapshot.counts)) := by
  unfold recover
  rw [parsed]
  dsimp only
  rw [if_neg (fun differs => differs own)]
  rfl

/-- A start with a file in the place of its snapshot changes nothing on the disk, and it succeeds
just in case the file holds a text. If that text is a snapshot of the application, the start has its
counts, of a repeated word the largest; if not, it has no counts and says so. -/
theorem prepare_of_found (accepted : directory stateDir id = .ok dir)
    (found : disk.tree.find (dir.join fileName) = .ok (place, .file content)) :
    (prepare stateDir id false disk).2 = disk ∧
      ((¬ ∃ text : String, content = text.toUTF8) →
        (prepare stateDir id false disk).1 = .error (.read dir (.io .notUtf8))) ∧
      ∀ text : String, content = text.toUTF8 →
        (∀ snapshot, ofText? text = some snapshot → snapshot.applicationId = id →
          ∃ tally, (prepare stateDir id false disk).1 =
              .ok (tally, loadedLine snapshot.savedUtc tally) ∧
            ∀ word, tally.get? word = Tally.largest? snapshot.counts word) ∧
        ((∀ snapshot, ofText? text = some snapshot → snapshot.applicationId ≠ id) →
          ∃ warning, (prepare stateDir id false disk).1 = .ok (Tally.empty, .warn warning)) := by
  rw [prepare_of_load accepted]
  refine ⟨disk_of_load stateDir id disk, load_of_octets found, ?_⟩
  rintro text rfl
  rw [load_of_text found]
  refine ⟨fun snapshot parsed own => ?_, fun foreign => ?_⟩
  · refine ⟨Tally.ofList snapshot.counts, ?_, Tally.get?_ofList snapshot.counts⟩
    rw [recover_of_own parsed own]
  · obtain ⟨warning, empty⟩ := recover_of_foreign dir foreign
    exact ⟨warning, congrArg Except.ok empty⟩

def foundDisk (content : ByteArray) : Disk :=
  Disk.ofTree ⟨[(["counts.ron", "app", "s"], .file content), (["app", "s"], .directory),
    (["s"], .directory)]⟩

/-- One octet that no text holds keeps the application from starting. A snapshot with a word listed
twice is loaded with the larger count. -/
theorem foundDisk_prepared :
    prepare ⟨"s"⟩ "app" false (foundDisk ⟨#[0xFF]⟩) =
        (.error (.read ⟨"s/app"⟩ (.io .notUtf8)), foundDisk ⟨#[0xFF]⟩) ∧
      ∃ tally, (prepare ⟨"s"⟩ "app" false (foundDisk
          "(application_id:\"app\",saved_utc:\"-\",counts:[(\"a\",3),(\"a\",1)])".toUTF8)).1 =
            .ok (tally, loadedLine "-" tally) ∧ tally.get? "a" = some 3 := by
  have accepted : directory ⟨"s"⟩ "app" = .ok ⟨"s/app"⟩ := by decide +kernel
  have found : ∀ content, (foundDisk content).tree.find ((⟨"s/app"⟩ : Path).join fileName) =
      .ok (["counts.ron", "app", "s"], .file content) := by
    intro content
    rfl
  have foreign : ¬ ∃ text : String, (⟨#[0xFF]⟩ : ByteArray) = text.toUTF8 := by
    rintro ⟨text, same⟩
    have valid : ByteArray.IsValidUTF8 ⟨#[0xFF]⟩ := same ▸ text.isValidUTF8
    exact absurd valid (by decide +kernel)
  refine ⟨?_, ?_⟩
  · obtain ⟨kept, refused, _⟩ := prepare_of_found accepted (found ⟨#[0xFF]⟩)
    exact Prod.ext (refused foreign) kept
  · obtain ⟨_, _, read⟩ := prepare_of_found accepted (found
      "(application_id:\"app\",saved_utc:\"-\",counts:[(\"a\",3),(\"a\",1)])".toUTF8)
    obtain ⟨tally, loaded, counts⟩ := (read _ rfl).1 ⟨"app", "-", [("a", 3), ("a", 1)]⟩
      (by decide +kernel) rfl
    exact ⟨tally, loaded, (counts "a").trans (by decide +kernel)⟩

end WordTally.Snapshot
