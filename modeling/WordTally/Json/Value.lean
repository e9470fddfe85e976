import WordTally.Decimal.Binary64

/-
JSON values. A whole number keeps its exact value where 64 bits, signed or unsigned, hold it, and
is a floating point number beyond that. The members of an object ascend by name and no name occurs
twice.
-/

set_option autoImplicit false

namespace WordTally

namespace Json

inductive Number where
  | integer (value : Int)
  | real (value : Decimal.Binary64)
  deriving DecidableEq, Repr, Inhabited

end Json

inductive Json where
  | null
  | bool (value : Bool)
  | number (value : Json.Number)
  | string (value : String)
  | array (items : List Json)
  | object (members : List (String × Json))
  deriving Repr, Inhabited

namespace Json

/-- Gives a member its value; one that is there already is replaced. -/
def setMember (name : String) (value : Json) : List (String × Json) → List (String × Json)
  | [] => [(name, value)]
  | (other, present) :: rest =>
    if name < other then (name, value) :: (other, present) :: rest
    else if name = other then (name, value) :: rest
    else (other, present) :: setMember name value rest

/-- An object from members in any order; of two with one name the last counts. -/
def ofMembers (members : List (String × Json)) : Json :=
  .object (members.foldl (fun sorted member => setMember member.1 member.2 sorted) [])

def ofNat (n : Nat) : Json := .number (.integer n)

def member? (name : String) : List (String × Json) → Option Json
  | [] => none
  | (other, value) :: rest => if other = name then some value else member? name rest

/-- A member of an object; nothing for any other value. -/
def get? (json : Json) (name : String) : Option Json :=
  match json with
  | .object members => member? name members
  | _ => none

end Json

end WordTally
