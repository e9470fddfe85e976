import WordTally.Log
import WordTally.Snapshot.Document
import WordTally.Store
import WordTally.Tally

set_option autoImplicit false

namespace WordTally

inductive SnapshotError where
  | badId (id : String)
  | reset (dir : Path) (error : StoreError)
  | read (dir : Path) (error : StoreError)
  | write (dir : Path) (error : StoreError)
  deriving DecidableEq, Repr

def SnapshotError.message : SnapshotError → String
  | .badId id => "application id " ++ Text.quoted id ++ " is not a plain directory name"
  | .reset dir error => "failed to reset state directory " ++ dir.quoted ++ ": " ++ error.chain
  | .read dir error => "failed to read snapshot in " ++ dir.quoted ++ ": " ++ error.chain
  | .write dir error => "failed to write snapshot to " ++ dir.quoted ++ ": " ++ error.chain

namespace Snapshot

def fileName : String := "counts.ron"

/-- The directory of an application. Its id is the name of that directory, so that no application
reaches the directory of another. -/
def directory (stateDir : Path) (applicationId : String) : Except SnapshotError Path :=
  if (⟨applicationId⟩ : Path).isPlainName then .ok (stateDir.join applicationId)
  else .error (.badId applicationId)

/-- What the text of a snapshot gives an application to start from, and a word about it. A text
that is none, or that belongs to another application, gives nothing. -/
def recover (dir : Path) (applicationId text : String) : Tally × LogLine :=
  match ofText? text with
  | none => (Tally.empty, .warn ("Failed to parse snapshot in " ++ dir.quoted))
  | some snapshot =>
    if snapshot.applicationId ≠ applicationId then
      (Tally.empty, .warn ("snapshot in " ++ dir.quoted ++ " belongs to " ++
        snapshot.applicationId ++ "; starting empty"))
    else
      let tally := Tally.ofList snapshot.counts
      (tally, .info ("loaded " ++ toString tally.size ++ " words from snapshot saved at " ++
        snapshot.savedUtc))

/-- The tally in an application's directory. Nothing on the disk changes. -/
def load (dir : Path) (applicationId : String) (tree : Tree) :
    Except SnapshotError (Tally × LogLine) :=
  match Store.read dir fileName tree with
  | .error error => .error (.read dir error)
  | .ok none =>
    .ok (Tally.empty, .info ("no snapshot in " ++ dir.quoted ++ "; starting empty"))
  | .ok (some text) => .ok (recover dir applicationId text)

/-- An application's directory without anything in it, to start from nothing. -/
def wipe (dir : Path) (disk : Disk) : Except SnapshotError (Tally × LogLine) × Disk :=
  match Store.reset dir disk with
  | (.error error, disk) => (.error (.reset dir error), disk)
  | (.ok removed, disk) =>
    (.ok (Tally.empty, .info ("reset state directory " ++ dir.quoted ++ " (" ++ toString removed ++
      " entries removed)")), disk)

/-- The tally that an application starts from, and a word about it: the saved one, or none after a
reset. -/
def prepare (stateDir : Path) (applicationId : String) (reset : Bool) (disk : Disk) :
    Except SnapshotError (Tally × LogLine) × Disk :=
  match directory stateDir applicationId with
  | .error error => (.error error, disk)
  | .ok dir =>
    if reset then wipe dir disk else (load dir applicationId disk.tree, disk)

/-- Saves the tally of an application as its snapshot of a time. Says where it is. -/
def save (stateDir : Path) (applicationId time : String) (tally : Tally) (disk : Disk) :
    Except SnapshotError (Path × LogLine) × Disk :=
  match directory stateDir applicationId with
  | .error error => (.error error, disk)
  | .ok dir =>
    let snapshot : Snapshot := ⟨applicationId, time, tally.toList⟩
    match Store.write dir fileName snapshot.text disk with
    | (.error error, disk) => (.error (.write dir error), disk)
    | (.ok path, disk) =>
      (.ok (path, .info ("saved " ++ toString tally.size ++ " words to " ++ path.quoted)), disk)

end Snapshot

end WordTally
