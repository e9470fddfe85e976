import WordTally.Files.Tree

set_option autoImplicit false

namespace WordTally

inductive Call where
  | makeDirectory (place : Location)
  /-- A temporary file that is only to show that there can be one. -/
  | probe (dir : Location)
  | makeTemporary (dir : Location)
  | write
  | sync
  | rename
  | remove (place : Location)
  | createFile (place : Location)
  deriving DecidableEq, Repr

structure Disk where
  tree : Tree
  /-- What the system answers to calls that it refuses, whatever the tree is. -/
  refusal : Call → Option OsError

namespace Disk

def ofTree (tree : Tree) : Disk := ⟨tree, fun _ => none⟩

def setTree (disk : Disk) (tree : Tree) : Disk := { disk with tree := tree }

/-- A change of the tree, unless the system refuses the call. -/
def change (disk : Disk) (call : Call) (tree : Tree) : Except OsError Disk :=
  match disk.refusal call with
  | some error => .error error
  | none => .ok (disk.setTree tree)

def isDots (part : String) : Bool := part = Path.self || part = Path.above

def makeDirectory (disk : Disk) (parts : List String) : Except OsError Disk :=
  match disk.tree.locate parts with
  | .error error => .error error
  | .ok (dir, name) =>
    if isDots name then .error .alreadyExists
    else if Tree.longestName < name.utf8ByteSize then .error .nameTooLong
    else if (disk.tree.at? (name :: dir)).isSome then .error .alreadyExists
    else disk.change (.makeDirectory (name :: dir)) (disk.tree.put (name :: dir) .directory)

/-- The beginnings of a path that lead to the directories above it, the nearest first. -/
def ancestors (parts : List String) : List (List String) :=
  let parts := Path.essential parts
  ((List.range parts.length).drop 1).reverse.map parts.take

/-- Makes a directory, or leaves the one that is there. The directories above it, which come after
it in the list, are made first when the call finds one of them missing. -/
def makeEach (disk : Disk) : List (List String) → Option OsError × Disk
  | [] => (none, disk)
  | parts :: above =>
    let settled := fun (error : OsError) (disk : Disk) =>
      (if disk.tree.leadsToDirectory parts then none else some error, disk)
    match disk.makeDirectory parts with
    | .ok disk => (none, disk)
    | .error .notFound =>
      match makeEach disk above with
      | (some error, disk) => (some error, disk)
      | (none, disk) =>
        match disk.makeDirectory parts with
        | .ok disk => (none, disk)
        | .error error => settled error disk
    | .error error => settled error disk

/-- Makes a directory and whatever is missing above it. A path without parts needs nothing. -/
def makeDirectories (disk : Disk) (path : Path) : Option OsError × Disk :=
  if path.parts.isEmpty then (none, disk)
  else match Tree.flaw? path with
    | some error => (some error, disk)
    | none => disk.makeEach (path.parts :: ancestors path.parts)

def remove (disk : Disk) (place : Location) : Except OsError Disk :=
  disk.change (.remove place) (disk.tree.remove place)

def freeName? (taken : String → Bool) : Nat → Nat → Option String
  | 0, _ => none
  | tries + 1, number =>
    let name := ".tmp" ++ toString number
    if taken name then freeName? taken tries (number + 1) else some name

theorem not_taken_of_freeName? {taken : String → Bool} {tries number : Nat} {name : String}
    (found : freeName? taken tries number = some name) : taken name = false := by
  induction tries generalizing number with
  | zero => simp [freeName?] at found
  | succ tries ih =>
    simp only [freeName?] at found
    split at found
    · exact ih found
    · simp_all

def temporaryTries : Nat := 65536

/-- An empty file in a directory, of a name that nothing there has. -/
def makeTemporary (disk : Disk) (call : Call) (dir : Location) : Except OsError (Location × Disk) :=
  let taken := fun name => (disk.tree.at? (name :: dir)).isSome
  match freeName? taken temporaryTries 0 with
  | none => .error .alreadyExists
  | some name =>
    match disk.change call (disk.tree.put (name :: dir) (.file ByteArray.empty)) with
    | .error error => .error error
    | .ok disk => .ok (name :: dir, disk)

def discard (disk : Disk) (temporary : Location) : Disk :=
  disk.setTree (disk.tree.remove temporary)

def fill (disk : Disk) (place : Location) (content : ByteArray) : Except OsError Disk :=
  match disk.change .write (disk.tree.put place (.file content)) with
  | .error error => .error error
  | .ok disk => disk.change .sync disk.tree

/-- Moves a file from its place in a directory to a path. A file there is replaced; a directory is
not, be it one that the file lies in or another. -/
def rename (disk : Disk) (dir source : Location) (content : ByteArray) (target : Path) :
    Except OsError Disk :=
  match Tree.flaw? target with
  | some .nulInPath => .error .invalidArgument
  | some error => .error error
  | none =>
    match disk.tree.locate target.parts with
    | .error error => .error error
    | .ok (parent, name) =>
      let place := name :: parent
      if isDots name then .error .busy
      else if Tree.longestName < name.utf8ByteSize then .error .nameTooLong
      else if target.endsInSlash then .error .notDirectory
      else if place.isSuffixOf dir then .error .notEmpty
      else if disk.tree.at? place = some .directory then .error .isDirectory
      else disk.change .rename ((disk.tree.remove source).put place (.file content))

/-- Puts a file of that content at a path, by way of a temporary file in a directory. Unless all
goes well the temporary file is given up. -/
def replace (disk : Disk) (dir : Location) (target : Path) (content : ByteArray) :
    Option OsError × Disk :=
  match disk.makeTemporary (.makeTemporary dir) dir with
  | .error error => (some error, disk)
  | .ok (temporary, disk) =>
    match disk.fill temporary content with
    | .error error => (some error, disk.discard temporary)
    | .ok disk =>
      match disk.rename dir temporary content target with
      | .error error => (some error, disk.discard temporary)
      | .ok disk => (none, disk)

/-- Opens a file for writing, empty from now on. -/
def createFile (disk : Disk) (path : Path) : Except OsError Disk :=
  match Tree.flaw? path with
  | some error => .error error
  | none =>
    match disk.tree.locate path.parts with
    | .error error => .error error
    | .ok (dir, name) =>
      let place := name :: dir
      if isDots name || path.endsInSlash then .error .isDirectory
      else if Tree.longestName < name.utf8ByteSize then .error .nameTooLong
      else if disk.tree.at? place = some .directory then .error .isDirectory
      else disk.change (.createFile place) (disk.tree.put place (.file ByteArray.empty))

/-- Puts a file at a path, with the directories above it. -/
def place (disk : Disk) (path : Path) (content : ByteArray) : Option OsError × Disk :=
  match disk.makeDirectories path.directory with
  | (some error, disk) => (some error, disk)
  | (none, disk) =>
    match disk.createFile path with
    | .error error => (some error, disk)
    | .ok disk =>
      match disk.tree.locate path.parts with
      | .ok (dir, name) => (none, disk.setTree (disk.tree.put (name :: dir) (.file content)))
      | .error error => (some error, disk)

end Disk

end WordTally
