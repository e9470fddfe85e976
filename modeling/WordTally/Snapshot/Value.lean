import WordTally.Snapshot.Number

set_option autoImplicit false

namespace WordTally.Snapshot

inductive Group where
  | list
  | tuple
  /-- Values, each after a name. -/
  | fields
  /-- Values, each after another value. -/
  | table
  deriving DecidableEq, Repr

def Group.close : Group → Char
  | .list => ']'
  | .tuple | .fields => ')'
  | .table => '\x7d'

def afterChar? (c : Char) : List Char → Option (List Char)
  | first :: rest => if first = c then some rest else none
  | [] => none

def readComma (text : List Char) : Option (Bool × List Char) :=
  match skipBlanks text with
  | none => none
  | some (',' :: rest) => (skipBlanks rest).map fun rest => (true, rest)
  | some rest => some (false, rest)

/-- The text after a colon and what surrounds it. -/
def afterColon? (text : List Char) : Option (List Char) :=
  match skipBlanks text with
  | some (':' :: rest) => skipBlanks rest
  | _ => none

def afterItem? (value : List Char → Option (List Char)) (group : Group) (text : List Char) :
    Option (List Char) :=
  match group with
  | .list | .tuple => value text
  | .fields => (readName text).bind fun read => (afterColon? read.2).bind value
  | .table => (value text).bind fun rest => (afterColon? rest).bind value

/-- The text after the rest of a group and its closing bracket. Another item needs a comma before
it. -/
def afterItems? (value : List Char → Option (List Char)) (group : Group) :
    Nat → Bool → List Char → Option (List Char)
  | 0, _, _ => none
  | items + 1, comma, text =>
    match skipBlanks text with
    | none => none
    | some text =>
      match afterChar? group.close text with
      | some rest => some rest
      | none =>
        if !comma then none
        else match afterItem? value group text with
          | none => none
          | some rest =>
            match readComma rest with
            | none => none
            | some (comma, rest) => afterItems? value group items comma rest

/-- What a group in round brackets holds: values after names, if a name and a colon come first. -/
def roundGroup (text : List Char) : Option Group :=
  match skipBlanks text with
  | none => none
  | some text =>
    match afterLeadingName? text with
    | none => some .tuple
    | some rest =>
      match skipBlanks rest with
      | none => none
      | some (':' :: _) => some .fields
      | some _ => some .tuple

def plainWords : List String :=
  ["true", "false", "None", "inf", "inff32", "inff64", "NaN", "NaNf32", "NaNf64"]

/-- Ways to write that a text may ask for. -/
structure Extensions where
  /-- Structures are given with their names only. -/
  explicitNames : Bool
  /-- What may be missing can be given without a wrapping. -/
  implicitSome : Bool
  deriving DecidableEq, Repr

/-- The text after a value that is nested into others at most so deeply. The first number bounds
the length of the way there. -/
def afterValue? (extensions : Extensions) : Nat → Nat → List Char → Option (List Char)
  | 0, _, _ => none
  | steps + 1, depth, text =>
    let inner := fun text =>
      if 2 ≤ depth then afterValue? extensions steps (depth - 2) text else none
    let group := fun (group : Group) (text : List Char) =>
      if 1 ≤ depth then afterItems? inner group steps true text else none
    let round := fun text =>
      match afterChar? '(' text with
      | none => some text
      | some rest => (roundGroup rest).bind fun kind => group kind rest
    match afterAnyName? plainWords text with
    | some rest => some rest
    | none =>
      match afterName? "Some" text with
      | some rest =>
        match skipBlanks rest with
        | none => none
        | some rest =>
          if depth = 0 then none
          else match afterChar? '(' rest with
            | some rest =>
              match (skipBlanks rest).bind (afterValue? extensions steps (depth - 1)) with
              | none => none
              | some rest => (readComma rest).bind fun read => afterChar? ')' read.2
            | none =>
              if extensions.implicitSome then afterValue? extensions steps (depth - 1) rest
              else none
      | none =>
        match afterMark? "()" text, afterLeadingName? text with
        | some rest, _ => some rest
        | none, some rest => (skipBlanks rest).bind round
        | none, none =>
          match text with
          | [] => none
          | '(' :: _ => round text
          | '[' :: rest => group .list rest
          | '\x7b' :: rest => group .table rest
          | '"' :: _ | 'r' :: _ => (readString text).map fun read => read.2
          | '\'' :: _ => (readCharacter text).map fun read => read.2
          | 'b' :: '\'' :: _ => afterNumber? text
          | 'b' :: _ => afterOctets? text
          | c :: _ =>
            if isDigit c || ['+', '-', '.'].contains c then afterNumber? text else none

end WordTally.Snapshot
