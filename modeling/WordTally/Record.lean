import WordTally.Json.Fault
import WordTally.Json.Printer
import WordTally.Json.Value

set_option autoImplicit false

namespace WordTally

/-- A record as delivered, its value unchecked. -/
structure RawRecord where
  key : Option String
  value : Json
  partition : Nat
  offset : Nat
  deriving Repr, Inhabited

structure Record where
  key : Option String
  text : String
  partition : Nat
  offset : Nat
  deriving DecidableEq, Repr, Inhabited

structure SchemaMismatch where
  partition : Nat
  offset : Nat
  fault : Json.Fault
  deriving DecidableEq, Repr

def SchemaMismatch.message (mismatch : SchemaMismatch) : String :=
  "record " ++ toString mismatch.partition ++ "/" ++ toString mismatch.offset ++
    " does not match the Words schema: " ++ mismatch.fault.message

namespace Json

def found : Json → Found
  | .null => .null
  | .bool value => .bool value
  | .number (.integer value) => .integer value
  | .number (.real value) => .real value
  | .string value => .string value
  | .array _ => .sequence
  | .object _ => .map

def asText : Json → Except Fault String
  | .string value => .ok value
  | other => .error (.wrongType other.found "a string")

def wordsField : Json → Except Fault String
  | .object members =>
    match member? "words" members with
    | some value => value.asText
    | none => .error (.missingField "words")
  | .array [] => .error (.wrongLength 0 "struct WordsValue with 1 element")
  | .array [value] => value.asText
  | .array (value :: rest) => do
    let _ ← value.asText
    .error (.wrongLength (rest.length + 1) "fewer elements in array")
  | other => .error (.wrongType other.found "struct WordsValue")

end Json

namespace RawRecord

def ofLine (partition offset : Nat) (line : String) : RawRecord :=
  ⟨none, .object [("words", .string line)], partition, offset⟩

def decode (raw : RawRecord) : Except SchemaMismatch Record :=
  match raw.value.wordsField with
  | .ok text => .ok ⟨raw.key, text, raw.partition, raw.offset⟩
  | .error fault => .error ⟨raw.partition, raw.offset, fault⟩

@[simp]
theorem decode_ofLine (partition offset : Nat) (line : String) :
    (ofLine partition offset line).decode = .ok ⟨none, line, partition, offset⟩ := rfl

end RawRecord

end WordTally
