import WordTally.Files.Path

set_option autoImplicit false

namespace WordTally

inductive OsError where
  | notFound
  | accessDenied
  | busy
  | alreadyExists
  | notDirectory
  | isDirectory
  | invalidArgument
  | noSpace
  | nameTooLong
  | notEmpty
  /-- The path holds a character that no path can be passed on with. -/
  | nulInPath
  deriving DecidableEq, Repr, Inhabited

def OsError.message : OsError → String
  | .notFound => "No such file or directory (os error 2)"
  | .accessDenied => "Permission denied (os error 13)"
  | .busy => "Device or resource busy (os error 16)"
  | .alreadyExists => "File exists (os error 17)"
  | .notDirectory => "Not a directory (os error 20)"
  | .isDirectory => "Is a directory (os error 21)"
  | .invalidArgument => "Invalid argument (os error 22)"
  | .noSpace => "No space left on device (os error 28)"
  | .nameTooLong => "File name too long (os error 36)"
  | .notEmpty => "Directory not empty (os error 39)"
  | .nulInPath => "file name contained an unexpected NUL byte"

/-- A place in a tree: the names that lead to it from the root, the last one first. -/
abbrev Location := List String

inductive Entry where
  | file (content : ByteArray)
  | directory

instance : DecidableEq Entry
  | .directory, .directory => isTrue rfl
  | .directory, .file _ => isFalse nofun
  | .file _, .directory => isFalse nofun
  | .file a, .file b =>
    if same : a.data = b.data then isTrue (by cases a; cases b; cases same; rfl)
    else isFalse fun equal => same (by cases equal; rfl)

structure Tree where
  /-- What stands where. Paths begin at the root, which is a directory and is not listed. -/
  entries : List (Location × Entry)
  deriving DecidableEq

namespace Tree

def empty : Tree := ⟨[]⟩

def at? (tree : Tree) : Location → Option Entry
  | [] => some .directory
  | location => tree.entries.lookup location

def put (tree : Tree) (location : Location) (entry : Entry) : Tree :=
  ⟨(location, entry) :: tree.entries.filter fun old => old.1 != location⟩

/-- Takes away what stands at a place and everything below it. -/
def remove (tree : Tree) (top : Location) : Tree :=
  ⟨tree.entries.filter fun entry => !top.isSuffixOf entry.1⟩

def names (tree : Tree) (dir : Location) : List String :=
  tree.entries.filterMap fun entry =>
    match entry.1 with
    | name :: parent => if parent = dir then some name else none
    | [] => none

@[simp]
theorem at?_nil (tree : Tree) : tree.at? [] = some .directory := rfl

theorem lookup_filter_of_keep {entries : List (Location × Entry)} {location : Location}
    (keep : Location → Bool) (kept : keep location = true) :
    (entries.filter fun entry => keep entry.1).lookup location = entries.lookup location := by
  induction entries with
  | nil => rfl
  | cons head rest ih =>
    obtain ⟨place, entry⟩ := head
    by_cases same : location = place
    · subst same
      simp [kept]
    · have differ : (location == place) = false := by simpa using same
      by_cases keepHead : keep place = true
      · simp [keepHead, List.lookup_cons, differ, ih]
      · simp [keepHead, List.lookup_cons, differ, ih]

theorem lookup_filter_of_drop {entries : List (Location × Entry)} {location : Location}
    (keep : Location → Bool) (dropped : keep location = false) :
    (entries.filter fun entry => keep entry.1).lookup location = none := by
  induction entries with
  | nil => rfl
  | cons head rest ih =>
    obtain ⟨place, entry⟩ := head
    by_cases keepHead : keep place = true
    · have differ : (location == place) = false := by
        simp only [beq_eq_false_iff_ne, ne_eq]
        intro same
        simp_all
      simp [keepHead, List.lookup_cons, differ, ih]
    · simp [keepHead, ih]

theorem at?_put_same {tree : Tree} {location : Location} {entry : Entry} (below : location ≠ []) :
    (tree.put location entry).at? location = some entry := by
  cases location with
  | nil => exact absurd rfl below
  | cons => simp [at?, put]

theorem at?_put_other {tree : Tree} {location other : Location} {entry : Entry}
    (differ : other ≠ location) : (tree.put location entry).at? other = tree.at? other := by
  cases other with
  | nil => rfl
  | cons name parent =>
    have head : ((name :: parent) == location) = false := by simpa using differ
    have kept : (name :: parent != location) = true := by simpa using differ
    simp only [at?, put, List.lookup_cons, head]
    exact lookup_filter_of_keep (fun place => place != location) kept

theorem at?_remove_below {tree : Tree} {top location : Location} (inside : top <:+ location)
    (notRoot : location ≠ []) : (tree.remove top).at? location = none := by
  cases location with
  | nil => exact absurd rfl notRoot
  | cons =>
    exact lookup_filter_of_drop (fun place => !top.isSuffixOf place)
      (by simpa using List.isSuffixOf_iff_suffix.2 inside)

theorem at?_remove_outside {tree : Tree} {top location : Location} (outside : ¬ top <:+ location) :
    (tree.remove top).at? location = tree.at? location := by
  cases location with
  | nil => rfl
  | cons =>
    refine lookup_filter_of_keep (fun place => !top.isSuffixOf place) ?_
    simpa [← Bool.not_eq_true, List.isSuffixOf_iff_suffix] using outside

def longestName : Nat := 255

def longestPath : Nat := 4096

/-- Goes on from a place by parts of a path. Each part is looked up in a directory; the last place
need not exist. -/
def walk (tree : Tree) : Location → List String → Except OsError Location
  | place, [] => .ok place
  | place, part :: rest =>
    match tree.at? place with
    | none => .error .notFound
    | some (.file _) => .error .notDirectory
    | some .directory =>
      if part = Path.self then walk tree place rest
      else if part = Path.above then walk tree place.tail rest
      else if longestName < part.utf8ByteSize then .error .nameTooLong
      else walk tree (part :: place) rest

/-- Why a path cannot be passed on at all. -/
def flaw? (path : Path) : Option OsError :=
  if path.text.toList.contains '\x00' then some .nulInPath
  else if path.text.isEmpty then some .notFound
  else if longestPath ≤ path.text.utf8ByteSize then some .nameTooLong
  else none

/-- The place of a path and what stands there. Only a directory is found with a slash at the end. -/
def find (tree : Tree) (path : Path) : Except OsError (Location × Entry) :=
  match flaw? path with
  | some error => .error error
  | none =>
    match tree.walk [] path.parts with
    | .error error => .error error
    | .ok place =>
      match tree.at? place with
      | none => .error .notFound
      | some (.file content) =>
        if path.endsInSlash then .error .notDirectory else .ok (place, .file content)
      | some .directory => .ok (place, .directory)

/-- The directory in which the last part is to be looked up, and that part. Without any part it is
the root that is meant. -/
def locate (tree : Tree) (parts : List String) : Except OsError (Location × String) :=
  match tree.walk [] parts.dropLast with
  | .error error => .error error
  | .ok dir =>
    match tree.at? dir with
    | none => .error .notFound
    | some (.file _) => .error .notDirectory
    | some .directory => .ok (dir, parts.getLast?.getD Path.self)

def leadsToDirectory (tree : Tree) (parts : List String) : Bool :=
  match tree.walk [] parts with
  | .ok place => tree.at? place = some .directory
  | .error _ => false

end Tree

end WordTally
