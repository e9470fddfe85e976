import WordTally.Text.Quoted
import WordTally.Text.Split

set_option autoImplicit false

namespace WordTally

structure Path where
  text : String
  deriving DecidableEq, Repr, Inhabited

namespace Path

/-- The parts between slashes. Slashes in a row enclose no part. -/
def parts (path : Path) : List String :=
  ((Text.pieces '/' path.text.toList).filter fun piece => !piece.isEmpty).map String.ofList

def startsWithSlash (path : Path) : Bool := path.text.toList.head? == some '/'

def endsInSlash (path : Path) : Bool := path.text.toList.getLast? == some '/'

def join (dir : Path) (name : String) : Path :=
  if (⟨name⟩ : Path).startsWithSlash then ⟨name⟩
  else if dir.text.isEmpty || dir.endsInSlash then ⟨dir.text ++ name⟩
  else ⟨dir.text ++ "/" ++ name⟩

def quoted (path : Path) : String := Text.quoted path.text

def self : String := "."

def above : String := ".."

/-- Parts without those that lead nowhere, except at the beginning. -/
def essential : List String → List String
  | [] => []
  | first :: rest => first :: rest.filter (· ≠ self)

/-- A path of one name alone, apart from slashes after it and parts that lead nowhere. -/
def isPlainName (path : Path) : Bool :=
  match essential path.parts with
  | [name] => !path.startsWithSlash && name ≠ self && name ≠ above
  | _ => false

def take (path : Path) (count : Nat) : Path :=
  let root := if path.startsWithSlash then "/" else ""
  ⟨root ++ "/".intercalate ((essential path.parts).take count)⟩

def directory (path : Path) : Path := path.take ((essential path.parts).length - 1)

/-- The paths of all directories above, the nearest last. -/
def ancestors (path : Path) : List Path :=
  ((List.range (essential path.parts).length).drop 1).map path.take

end Path

end WordTally
