import WordTally.Json.Node

set_option autoImplicit false

namespace WordTally.Json

/-- Arrays and objects may stand inside each other this often. -/
def deepest : Nat := 127

namespace Node

mutual

/-- Any value, with room for so many levels of arrays and objects. -/
def value : Nat → Node → Except Fault Json
  | _, .null => .ok .null
  | _, .bool value => .ok (.bool value)
  | _, .number reading => reading.map .number
  | _, .string reading => reading.map .string
  | 0, .array _ _ => .error .tooDeep
  | levels + 1, .array items finish => do
    let values ← itemValues levels items
    check finish.arrayFault
    return .array values
  | 0, .object _ _ => .error .tooDeep
  | levels + 1, .object members finish => do
    let values ← memberValues levels members
    check finish.objectFault
    return ofMembers values
  | _, .broken strict _ => .error strict

def itemValues (levels : Nat) : List Node → Except Fault (List Json)
  | [] => .ok []
  | item :: rest => do
    let first ← item.value levels
    let others ← itemValues levels rest
    return first :: others

def memberValues (levels : Nat) : List (Except Fault String × Node) →
    Except Fault (List (String × Json))
  | [] => .ok []
  | (name, node) :: rest => do
    let name ← name
    let first ← node.value levels
    let others ← memberValues levels rest
    return (name, first) :: others

end

mutual

def skip : Node → Except Fault Unit
  | .null | .bool _ | .number _ | .string _ => .ok ()
  | .array items finish => do
    skipItems items
    check finish.skippedArrayFault
  | .object members finish => do
    skipMembers members
    check finish.skippedObjectFault
  | .broken _ lenient => .error lenient

def skipItems : List Node → Except Fault Unit
  | [] => .ok ()
  | item :: rest => do
    item.skip
    skipItems rest

def skipMembers : List (Except Fault String × Node) → Except Fault Unit
  | [] => .ok ()
  | (_, node) :: rest => do
    node.skip
    skipMembers rest

end

/-- The fault of a value that is not of the expected type. A scalar has to be well formed to count
as one. -/
def mismatch (expected : String) : Node → Fault
  | .null => .wrongType .null expected
  | .bool value => .wrongType (.bool value) expected
  | .number (.ok (.integer value)) => .wrongType (.integer value) expected
  | .number (.ok (.real value)) => .wrongType (.real value) expected
  | .number (.error fault) => fault
  | .string (.ok value) => .wrongType (.string value) expected
  | .string (.error fault) => fault
  | .array _ _ => .wrongType .sequence expected
  | .object _ _ => .wrongType .map expected
  | .broken strict _ => strict

def text : Node → Except Fault String
  | .string reading => reading
  | node => .error (node.mismatch "a string")

/-- A whole number from `least` to `most`, a type of that name. -/
def integer (least most : Int) (type : String) : Node → Except Fault Int
  | .number (.ok (.integer value)) =>
    if least ≤ value ∧ value ≤ most then .ok value
    else .error (.wrongValue (.integer value) type)
  | node => .error (node.mismatch type)

def natural (most : Nat) (type : String) (node : Node) : Except Fault Nat :=
  (node.integer 0 most type).map Int.toNat

/-- A value, or null in its place. -/
def optional {α : Type} (reader : Node → Except Fault α) : Node → Except Fault (Option α)
  | .null => .ok none
  | node => (reader node).map some

def list {α : Type} (levels : Nat) (reader : Nat → Node → Except Fault α) :
    Node → Except Fault (List α)
  | .array items finish =>
    match levels with
    | 0 => .error .tooDeep
    | levels + 1 => do
      let values ← items.mapM (reader levels)
      check finish.arrayFault
      return values
  | node => .error (node.mismatch "a sequence")

end Node

structure Field (σ : Type) where
  name : String
  present : σ → Bool
  read : Nat → Node → σ → Except Fault σ
  /-- Whether the field may be left out of a record given as an array. -/
  optional : Bool

/-- Records given as an object, or as an array of the fields in order. -/
structure Shape (σ : Type) where
  name : String
  fields : List (Field σ)
  blank : σ

namespace Shape

variable {σ : Type}

/-- What a value of the shape is called where another stands. -/
def expected (shape : Shape σ) : String := "struct " ++ shape.name

def expectedLength (shape : Shape σ) : String :=
  let count := shape.fields.length
  shape.expected ++ " with " ++ toString count ++ if count = 1 then " element" else " elements"

/-- Members in any order. Names that are no field are passed over, and a field may come once. -/
def readMembers (shape : Shape σ) (levels : Nat) :
    List (Except Fault String × Node) → σ → Except Fault σ
  | [], record => .ok record
  | (name, node) :: rest, record => do
    let name ← name
    match shape.fields.find? (fun field => field.name == name) with
    | some field =>
      if field.present record then .error (.duplicateField name)
      else
        let record ← field.read levels node record
        shape.readMembers levels rest record
    | none =>
      node.skip
      shape.readMembers levels rest record

/-- Elements in the order of the fields; `index` of them are read. -/
def readItems (shape : Shape σ) (levels : Nat) (finish : Finish) :
    Nat → List (Field σ) → List Node → σ → Except Fault σ
  | _, [], [], record => do
    check finish.closeFault
    return record
  | _, [], _ :: _, _ => .error .trailingText
  | index, field :: fields, [], record => do
    check finish.arrayFault
    if field.optional then shape.readItems levels finish (index + 1) fields [] record
    else .error (.wrongLength index shape.expectedLength)
  | index, field :: fields, item :: items, record => do
    let record ← field.read levels item record
    shape.readItems levels finish (index + 1) fields items record

def read (shape : Shape σ) (levels : Nat) : Node → Except Fault σ
  | .array items finish =>
    match levels with
    | 0 => .error .tooDeep
    | levels + 1 => shape.readItems levels finish 0 shape.fields items shape.blank
  | .object members finish =>
    match levels with
    | 0 => .error .tooDeep
    | levels + 1 => do
      let record ← shape.readMembers levels members shape.blank
      check finish.objectFault
      return record
  | node => .error (node.mismatch shape.expected)

end Shape

def required {α : Type} (name : String) : Option α → Except Fault α
  | some value => .ok value
  | none => .error (.missingField name)

def ofOctets (octets : Octets) : Except Fault Json :=
  (Document.ofOctets octets).read (Node.value deepest)

end WordTally.Json
