import WordTally.Files.Disk

set_option autoImplicit false

namespace WordTally

inductive IoError where
  | os (error : OsError)
  | notUtf8
  deriving DecidableEq, Repr

def IoError.message : IoError → String
  | .os error => error.message
  | .notUtf8 => "stream did not contain valid UTF-8"

inductive Unusable where
  | notDirectory
  | os (error : OsError)
  deriving DecidableEq, Repr

def Unusable.message : Unusable → String
  | .notDirectory => "not a directory"
  | .os error => error.message

inductive StoreError where
  | unusable (dir : Path) (reason : Unusable)
  | io (error : IoError)
  deriving DecidableEq, Repr

namespace StoreError

def message : StoreError → String
  | .unusable dir reason =>
    "state directory " ++ dir.quoted ++ " is unusable: " ++ reason.message
  | .io error => "io error: " ++ error.message

/-- The message together with that of the error behind it. -/
def chain : StoreError → String
  | .unusable dir reason => message (.unusable dir reason)
  | .io error => message (.io error) ++ ": " ++ error.message

end StoreError

namespace Store

/-- The place of a directory that is there, made if it was missing. -/
def enter (dir : Path) (disk : Disk) : Except Unusable Location × Disk :=
  match disk.tree.find dir with
  | .ok (place, .directory) => (.ok place, disk)
  | .ok (_, .file _) => (.error .notDirectory, disk)
  | .error .notFound =>
    match disk.makeDirectories dir with
    | (some error, disk) => (.error (.os error), disk)
    | (none, disk) =>
      match disk.tree.walk [] dir.parts with
      | .ok place => (.ok place, disk)
      | .error error => (.error (.os error), disk)
  | .error error => (.error (.os error), disk)

/-- The place of a directory in which files can be made, itself made if it was missing. -/
def ensure (dir : Path) (disk : Disk) : Except StoreError Location × Disk :=
  match enter dir disk with
  | (.error reason, disk) => (.error (.unusable dir reason), disk)
  | (.ok place, disk) =>
    match disk.makeTemporary (.probe place) place with
    | .error error => (.error (.unusable dir (.os error)), disk)
    | .ok (temporary, disk) => (.ok place, disk.discard temporary)

/-- Removes entries of a directory one by one and counts them. -/
def clear (dir : Location) : List String → Nat → Disk → Except StoreError Nat × Disk
  | [], removed, disk => (.ok removed, disk)
  | name :: rest, removed, disk =>
    match disk.remove (name :: dir) with
    | .error error => (.error (.io (.os error)), disk)
    | .ok disk => clear dir rest (removed + 1) disk

/-- Removes everything in a directory, which is made if it was missing. Says how many entries it
had. -/
def reset (dir : Path) (disk : Disk) : Except StoreError Nat × Disk :=
  match ensure dir disk with
  | (.error error, disk) => (.error error, disk)
  | (.ok _, disk) =>
    match disk.tree.find dir with
    | .error error => (.error (.io (.os error)), disk)
    | .ok (place, _) => clear place (disk.tree.names place) 0 disk

/-- Writes a file in a directory, which is made if it was missing. A reader sees the old content or
the new one, never a part of it. -/
def write (dir : Path) (name content : String) (disk : Disk) : Except StoreError Path × Disk :=
  match ensure dir disk with
  | (.error error, disk) => (.error error, disk)
  | (.ok place, disk) =>
    match disk.replace place (dir.join name) content.toUTF8 with
    | (some error, disk) => (.error (.io (.os error)), disk)
    | (none, disk) => (.ok (dir.join name), disk)

/-- The text of a file in a directory; nothing if there is no such file. -/
def read (dir : Path) (name : String) (tree : Tree) : Except StoreError (Option String) :=
  match tree.find (dir.join name) with
  | .error .notFound => .ok none
  | .error error => .error (.io (.os error))
  | .ok (_, .directory) => .error (.io (.os .isDirectory))
  | .ok (_, .file content) =>
    match String.fromUTF8? content with
    | some text => .ok (some text)
    | none => .error (.io .notUtf8)

end Store

end WordTally
