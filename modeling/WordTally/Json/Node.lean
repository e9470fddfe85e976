import WordTally.Json.Lexeme

/-
The parse tree of a JSON text. Reading a tree never fails: where the text is malformed, the tree
ends, and keeps there what is wrong. Readers of the tree meet its parts in the order of the text,
so the fault they report is the first one that matters to them.
-/

set_option autoImplicit false

namespace WordTally.Json

/-- How the elements of an array or the members of an object come to their end. -/
inductive Finish where
  | closed
  /-- A comma, and then the closing bracket. -/
  | commaThenClosed
  /-- A comma, and then the end of the text. -/
  | commaThenEnd
  /-- Neither a comma nor the closing bracket. -/
  | noSeparator
  | textEnds
  /-- In place of a member's name stands no string. -/
  | noName
  /-- A member's name is malformed, for a strict reader and for one that passes over it. -/
  | badName (strict lenient : Fault)
  /-- The last part is itself broken off. -/
  | cutOff
  deriving DecidableEq, Repr

inductive Node where
  | null
  | bool (value : Bool)
  | number (value : Except Fault Number)
  | string (value : Except Fault String)
  | array (items : List Node) (finish : Finish)
  | object (members : List (Except Fault String × Node)) (finish : Finish)
  /-- Malformed from here on, for a strict reader and for one that passes over the value. -/
  | broken (strict lenient : Fault)

namespace Node

/-- A tree and the text after it, if the tree is whole. -/
abbrev Scan := Node × Option Octets

def scanWord (value : Node) : Octets → Octets → Scan
  | [], rest => (value, some rest)
  | _ :: _, [] => (.broken .endInValue .endInValue, none)
  | w :: word, b :: rest =>
    if b = w then scanWord value word rest else (.broken .badLiteral .badLiteral, none)

def scanNumber (negative : Bool) (octets : Octets) : Scan :=
  match numeral negative octets with
  | .ok (found, rest) => (.number found.value, some rest)
  | .error .textEnds => (.broken .endInValue .badNumber, none)
  | .error .noDigit => (.broken .badNumber .badNumber, none)

def faultOf {α : Type} (reading : Except Fault α) (otherwise : Fault) : Fault :=
  match reading with
  | .error fault => fault
  | .ok _ => otherwise

def scanString (fuel : Nat) (octets : Octets) : Scan :=
  let value := stringValue fuel octets
  match afterString fuel octets with
  | .ok rest => (.string value, some rest)
  | .error lenient => (.broken (faultOf value lenient) lenient, none)

mutual

/-- The value at the head of the text. Each step reads an octet or goes one call deeper, so twice
the length of the text is fuel enough. -/
def scan : Nat → Octets → Scan
  | 0, _ => (.broken .endInValue .endInValue, none)
  | fuel + 1, octets =>
    match skipSpace octets with
    | [] => (.broken .endInValue .endInValue, none)
    | b :: rest =>
      if b = 0x6e then scanWord .null [0x75, 0x6c, 0x6c] rest
      else if b = 0x74 then scanWord (.bool true) [0x72, 0x75, 0x65] rest
      else if b = 0x66 then scanWord (.bool false) [0x61, 0x6c, 0x73, 0x65] rest
      else if b = 0x2d then scanNumber true rest
      else if isDigit b then scanNumber false (b :: rest)
      else if b = 0x22 then scanString fuel rest
      else if b = 0x5b then
        match skipSpace rest with
        | 0x5d :: rest => (.array [] .closed, some rest)
        | [] => (.array [] .textEnds, none)
        | rest =>
          let (items, finish, after) := scanItems fuel rest
          (.array items finish, after)
      else if b = 0x7b then
        match skipSpace rest with
        | 0x7d :: rest => (.object [] .closed, some rest)
        | 0x22 :: rest =>
          let (members, finish, after) := scanMembers fuel rest
          (.object members finish, after)
        | [] => (.object [] .textEnds, none)
        | _ => (.object [] .noName, none)
      else (.broken .noValue .noValue, none)

def scanItems : Nat → Octets → List Node × Finish × Option Octets
  | 0, _ => ([], .textEnds, none)
  | fuel + 1, octets =>
    match scan fuel octets with
    | (item, none) => ([item], .cutOff, none)
    | (item, some rest) =>
      match skipSpace rest with
      | 0x5d :: rest => ([item], .closed, some rest)
      | 0x2c :: rest =>
        match skipSpace rest with
        | 0x5d :: _ => ([item], .commaThenClosed, none)
        | [] => ([item], .commaThenEnd, none)
        | rest =>
          let (items, finish, after) := scanItems fuel rest
          (item :: items, finish, after)
      | [] => ([item], .textEnds, none)
      | _ => ([item], .noSeparator, none)

def scanMembers : Nat → Octets → List (Except Fault String × Node) × Finish × Option Octets
  | 0, _ => ([], .textEnds, none)
  | fuel + 1, octets =>
    let name := stringValue fuel octets
    match afterString fuel octets with
    | .error lenient => ([], .badName (faultOf name lenient) lenient, none)
    | .ok rest =>
      match skipSpace rest with
      | 0x3a :: rest =>
        match scan fuel rest with
        | (value, none) => ([(name, value)], .cutOff, none)
        | (value, some rest) =>
          match skipSpace rest with
          | 0x7d :: rest => ([(name, value)], .closed, some rest)
          | 0x2c :: rest =>
            match skipSpace rest with
            | 0x22 :: rest =>
              let (members, finish, after) := scanMembers fuel rest
              ((name, value) :: members, finish, after)
            | 0x7d :: _ => ([(name, value)], .commaThenClosed, none)
            | [] => ([(name, value)], .commaThenEnd, none)
            | _ => ([(name, value)], .noName, none)
          | [] => ([(name, value)], .textEnds, none)
          | _ => ([(name, value)], .noSeparator, none)
      | [] => ([(name, .broken .endInObject .endInObject)], .cutOff, none)
      | _ => ([(name, .broken .noColon .noColon)], .cutOff, none)

end

end Node

/-- What is wrong with the end of an array whose elements were all wanted. -/
def Finish.arrayFault : Finish → Option Fault
  | .closed => none
  | .commaThenClosed => some .trailingComma
  | .commaThenEnd => some .endInValue
  | .noSeparator => some .noListSeparator
  | .textEnds => some .endInList
  | .noName | .badName _ _ | .cutOff => some .endInList

/-- What is wrong with the end of an array of which no more elements were wanted. -/
def Finish.closeFault : Finish → Option Fault
  | .closed => none
  | .commaThenClosed => some .trailingComma
  | .commaThenEnd | .noSeparator => some .trailingText
  | .textEnds => some .endInList
  | .noName | .badName _ _ | .cutOff => some .endInList

/-- What is wrong with the end of an object. -/
def Finish.objectFault : Finish → Option Fault
  | .closed => none
  | .commaThenClosed => some .trailingComma
  | .commaThenEnd => some .endInValue
  | .noSeparator => some .noObjectSeparator
  | .textEnds => some .endInObject
  | .noName => some .keyNotString
  | .badName strict _ => some strict
  | .cutOff => some .endInObject

/-- What is wrong with the end of an array that is passed over: after a comma a value is due. -/
def Finish.skippedArrayFault : Finish → Option Fault
  | .commaThenClosed => some .noValue
  | finish => finish.arrayFault

/-- What is wrong with the end of an object that is passed over: after a comma a name is due. -/
def Finish.skippedObjectFault : Finish → Option Fault
  | .commaThenClosed => some .keyNotString
  | .commaThenEnd => some .endInObject
  | .badName _ lenient => some lenient
  | finish => finish.objectFault

def check : Option Fault → Except Fault Unit
  | some fault => .error fault
  | none => .ok ()

/-- A JSON text: its tree, and whether anything but blanks follows it. -/
structure Document where
  root : Node
  trailing : Bool

def Document.ofOctets (octets : Octets) : Document :=
  match Node.scan (2 * octets.length + 2) octets with
  | (root, some rest) => ⟨root, !(skipSpace rest).isEmpty⟩
  | (root, none) => ⟨root, false⟩

/-- Reads a whole text: first its value, then what follows it. -/
def Document.read {α : Type} (document : Document) (reader : Node → Except Fault α) :
    Except Fault α := do
  let value ← reader document.root
  if document.trailing then .error .trailingText else .ok value

end WordTally.Json
