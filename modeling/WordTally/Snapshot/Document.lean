import WordTally.Snapshot.Value
import WordTally.Text.Quoted

set_option autoImplicit false

namespace WordTally

structure Snapshot where
  applicationId : String
  savedUtc : String
  counts : List (String × Nat)
  deriving DecidableEq, Repr

namespace Snapshot

def escaped (c : Char) : List Char := if c = '\'' then ['\\', '\''] else Text.escaped c

def quoted (text : String) : List Char := '"' :: text.toList.flatMap escaped ++ ['"']

def writeCount (count : String × Nat) : List Char :=
  "        (".toList ++ quoted count.1 ++ ", ".toList ++ Nat.toDigits 10 count.2 ++ "),\n".toList

def writeCounts (counts : List (String × Nat)) : List Char :=
  if counts.isEmpty then "[]".toList
  else "[\n".toList ++ counts.flatMap writeCount ++ "    ]".toList

def write (snapshot : Snapshot) : List Char :=
  "(\n    application_id: ".toList ++ quoted snapshot.applicationId ++
    ",\n    saved_utc: ".toList ++ quoted snapshot.savedUtc ++
    ",\n    counts: ".toList ++ writeCounts snapshot.counts ++ ",\n)".toList

def text (snapshot : Snapshot) : String := String.ofList snapshot.write

def readPair (text : List Char) : Option ((String × Nat) × List Char) := do
  let text ← afterChar? '(' text
  let (word, text) ← readString (← skipBlanks text)
  let (comma, text) ← readComma text
  if !comma then none
  let (count, text) ← readCount text
  let (_, text) ← readComma text
  return ((word, count), ← afterChar? ')' text)

def readPairs : Nat → Bool → List Char → Option (List (String × Nat) × List Char)
  | 0, _, _ => none
  | most + 1, comma, text => do
    let text ← skipBlanks text
    match afterChar? ']' text with
    | some rest => return ([], rest)
    | none =>
      if !comma then none
      let (pair, text) ← readPair text
      let (comma, text) ← readComma text
      let (pairs, text) ← readPairs most comma text
      return (pair :: pairs, text)

def readCounts (text : List Char) : Option (List (String × Nat) × List Char) := do
  let text ← afterChar? '[' text
  readPairs (text.length + 1) true text

structure Members where
  applicationId : Option String
  savedUtc : Option String
  counts : Option (List (String × Nat))

namespace Members

def none : Members := ⟨.none, .none, .none⟩

/-- All members, once each of them has been read. -/
def complete? (members : Members) : Option Snapshot := do
  return ⟨← members.applicationId, ← members.savedUtc, ← members.counts⟩

end Members

/-- How deeply values may be nested in a whole text, counting every step into a group and into an
item. -/
def deepest : Nat := 128

/-- The value of a member. No member is given twice; one that nobody asks for is passed over. -/
def readMember (extensions : Extensions) (members : Members) (name : String) (text : List Char) :
    Option (Members × List Char) :=
  match name with
  | "application_id" =>
    if members.applicationId.isSome then none
    else (readString text).map fun read => ({ members with applicationId := some read.1 }, read.2)
  | "saved_utc" =>
    if members.savedUtc.isSome then none
    else (readString text).map fun read => ({ members with savedUtc := some read.1 }, read.2)
  | "counts" =>
    if members.counts.isSome then none
    else (readCounts text).map fun read => ({ members with counts := some read.1 }, read.2)
  | _ =>
    (afterValue? extensions (text.length + 1) (deepest - 2) text).map fun rest => (members, rest)

/-- The rest of the members, at most so many, as far as the closing bracket. -/
def readMembers (extensions : Extensions) :
    Nat → Bool → Members → List Char → Option (Members × List Char)
  | 0, _, _, _ => none
  | most + 1, comma, members, text => do
    let text ← skipBlanks text
    match afterChar? ')' text with
    | some rest => return (members, rest)
    | none =>
      if !comma then none
      let (name, text) ← readName text
      let (members, text) ← readMember extensions members name (← afterColon? text)
      let (comma, text) ← readComma text
      readMembers extensions most comma members text

/-- The text after marks that follow each other, with blanks between them. -/
def afterMarks? : List String → List Char → Option (List Char)
  | [], text => some text
  | mark :: marks, text => do
    let text ← skipBlanks (← afterMark? mark text)
    afterMarks? marks text

def request (extensions : Extensions) : String → Option Extensions
  | "unwrap_newtypes" | "unwrap_variant_newtypes" => some extensions
  | "implicit_some" => some { extensions with implicitSome := true }
  | "explicit_struct_names" => some { extensions with explicitNames := true }
  | _ => none

def readRequests : Nat → Extensions → List Char → Option (Extensions × List Char)
  | 0, _, _ => none
  | most + 1, extensions, text => do
    let (name, text) ← readName text
    let extensions ← request extensions name
    let (comma, text) ← readComma text
    if continuesName text then
      if comma then readRequests most extensions text else none
    else return (extensions, text)

/-- The requests before the value, in at most so many groups. -/
def readHead : Nat → Extensions → List Char → Option (Extensions × List Char)
  | 0, _, _ => none
  | most + 1, extensions, text =>
    if beginsWith "#" text then do
      let text ← afterMarks? ["#", "!", "[", "enable", "("] text
      let (extensions, text) ← readRequests (text.length + 1) extensions text
      let text ← afterMarks? [")", "]"] (← skipBlanks text)
      readHead most extensions text
    else some (extensions, text)

def structName : String := "PersistedCounts"

def afterStructName? (extensions : Extensions) (text : List Char) : Option (List Char) :=
  if continuesName text then do
    let (name, text) ← readName text
    if name = structName then return text else none
  else if extensions.explicitNames then none
  else some text

/-- The snapshot that a text holds, and nothing else. -/
def read? (text : List Char) : Option Snapshot := do
  let text ← skipBlanks text
  let (extensions, text) ← readHead (text.length + 1) ⟨false, false⟩ text
  let text ← skipBlanks (← afterStructName? extensions text)
  let text ← afterChar? '(' text
  let (members, text) ← readMembers extensions (text.length + 1) true .none text
  let rest ← skipBlanks text
  if rest.isEmpty then members.complete? else none

def ofText? (text : String) : Option Snapshot := read? text.toList

end Snapshot

end WordTally
