import WordTally.Text.Numeral
import WordTally.Unicode.NameClass

set_option autoImplicit false

namespace WordTally.Snapshot

def isBlank (c : Char) : Bool :=
  [' ', '\t', '\n', '\r', '\x0b', '\x0c', '\u0085', '\u200e', '\u200f', '\u2028',
    '\u2029'].contains c

/-- The text after a comment that is open, with as many more open around it. -/
def afterComment : Nat → List Char → Option (List Char)
  | _, [] => none
  | depth, '/' :: '*' :: rest => afterComment (depth + 1) rest
  | 0, '*' :: '/' :: rest => some rest
  | depth + 1, '*' :: '/' :: rest => afterComment depth rest
  | depth, _ :: rest => afterComment depth rest

/-- The text after blanks and at most so many comments. A slash begins nothing but a comment. -/
def afterBlanks : Nat → List Char → Option (List Char)
  | 0, text => some text
  | comments + 1, text =>
    match text.dropWhile isBlank with
    | '/' :: '/' :: rest => afterBlanks comments (rest.dropWhile (· ≠ '\n'))
    | '/' :: '*' :: rest =>
      match afterComment 0 rest with
      | some rest => afterBlanks comments rest
      | none => none
    | '/' :: _ => none
    | rest => some rest

def skipBlanks (text : List Char) : Option (List Char) := afterBlanks (text.length + 1) text

/-- The text after a mark that it begins with. -/
def afterMark? (mark : String) (text : List Char) : Option (List Char) :=
  if mark.toList.isPrefixOf text then some (text.drop mark.length) else none

def beginsWith (mark : String) (text : List Char) : Bool := mark.toList.isPrefixOf text

def continuesName (text : List Char) : Bool := text.head?.any Unicode.isNamePart

/-- The text after a name that it begins with, unless the name goes on. -/
def afterName? (name : String) (text : List Char) : Option (List Char) :=
  match afterMark? name text with
  | some rest => if continuesName rest then none else some rest
  | none => none

/-- Besides the usual ones, a marked name may hold these. -/
def isMarkedNamePart (c : Char) : Bool := ['.', '+', '-'].contains c || Unicode.isNamePart c

/-- Whether a string follows, or something else in quotes, although a letter comes first. -/
def beginsQuotation (text : List Char) : Bool :=
  ["b\"", "b'", "br#", "br\"", "r\"", "r#\"", "r##"].any fun mark => beginsWith mark text

/-- A name. After `r#` it may hold dots and signs; without that mark, none may follow it. -/
def readName (text : List Char) : Option (String × List Char) :=
  if !text.head?.any Unicode.isNameStart || beginsQuotation text then none
  else match afterMark? "r#" text with
    | some rest =>
      let name := rest.takeWhile isMarkedNamePart
      if name.isEmpty then none else some (String.ofList name, rest.drop name.length)
    | none =>
      let name := text.takeWhile Unicode.isNamePart
      if (text.takeWhile isMarkedNamePart).length > name.length then none
      else some (String.ofList name, text.drop name.length)

/-- The text after a name that stands before a value; whatever may follow the name is left. -/
def afterLeadingName? (text : List Char) : Option (List Char) :=
  if beginsQuotation text then none
  else match afterMark? "r#" text with
    | some rest =>
      let rest := rest.dropWhile isMarkedNamePart
      if rest.length + 2 < text.length then some rest else none
    | none =>
      if text.head?.any Unicode.isNameStart then
        some ((text.drop 1).dropWhile Unicode.isNamePart)
      else none

def hexDigit? (c : Char) : Option Nat :=
  if '0' ≤ c ∧ c ≤ '9' then some (c.toNat - '0'.toNat)
  else if 'a' ≤ c ∧ c ≤ 'f' then some (10 + c.toNat - 'a'.toNat)
  else if 'A' ≤ c ∧ c ≤ 'F' then some (10 + c.toNat - 'A'.toNat)
  else none

inductive Quotation where
  | text
  | character
  | octets
  deriving DecidableEq, Repr

/-- The character that some octets encode, all of them together. -/
def ofUtf8? (octets : List UInt8) : Option Char :=
  match String.fromUTF8? ⟨octets.toArray⟩ with
  | some text => if text.length = 1 then text.toList.head? else none
  | none => none

def readOctet : List Char → Option (UInt8 × List Char)
  | a :: b :: rest =>
    match hexDigit? a, hexDigit? b with
    | some high, some low => some (UInt8.ofNat (high * 16 + low), rest)
    | _, _ => none
  | _ => none

/-- A character that is spelled octet by octet, when so many octets at most are missing. -/
def readSpelled : Nat → List UInt8 → List Char → Option (Char × List Char)
  | missing, octets, text =>
    match ofUtf8? octets with
    | some c => some (c, text)
    | none =>
      match missing, afterMark? "\\x" text with
      | missing + 1, some rest =>
        match readOctet rest with
        | some (octet, rest) => readSpelled missing (octets ++ [octet]) rest
        | none => none
      | _, _ => none

/-- Up to so many digits of a code point, as far as the closing brace. -/
def readCodePoint : Nat → Nat → List Char → Option (Nat × List Char)
  | 0, value, text => some (value, text)
  | _ + 1, _, [] => none
  | digits + 1, value, c :: rest =>
    if c = '\x7d' then some (value, c :: rest)
    else match hexDigit? c with
      | some digit => readCodePoint digits (value * 16 + digit) rest
      | none => none

/-- What an escape stands for, after its backslash. In octets the character does not matter. -/
def readEscape (quotation : Quotation) : List Char → Option (Char × List Char)
  | '\'' :: rest => some ('\'', rest)
  | '"' :: rest => some ('"', rest)
  | '\\' :: rest => some ('\\', rest)
  | 'n' :: rest => some ('\n', rest)
  | 'r' :: rest => some ('\r', rest)
  | 't' :: rest => some ('\t', rest)
  | '0' :: rest => some ('\x00', rest)
  | 'x' :: rest =>
    match readOctet rest with
    | none => none
    | some (octet, rest) =>
      match quotation with
      | .octets => some (Char.ofNat octet.toNat, rest)
      | .character => readSpelled 0 [octet] rest
      | .text => readSpelled 3 [octet] rest
  | 'u' :: '\x7b' :: rest =>
    if rest.head? = some '\x7d' then none
    else match readCodePoint 6 0 rest with
      | some (value, '\x7d' :: rest) =>
        if value.isValidChar then some (Char.ofNat value, rest) else none
      | _ => none
  | _ => none

/-- The characters up to the closing quotation mark, at most so many. -/
def readQuoted (quotation : Quotation) : Nat → List Char → Option (List Char × List Char)
  | 0, _ => none
  | _ + 1, [] => none
  | _ + 1, '"' :: rest => some ([], rest)
  | most + 1, '\\' :: rest =>
    match readEscape quotation rest with
    | none => none
    | some (c, rest) => (readQuoted quotation most rest).map fun read => (c :: read.1, read.2)
  | most + 1, c :: rest => (readQuoted quotation most rest).map fun read => (c :: read.1, read.2)

def readUpTo (ending : List Char) : List Char → Option (List Char × List Char)
  | [] => none
  | c :: rest =>
    if ending.isPrefixOf (c :: rest) then some ([], (c :: rest).drop ending.length)
    else (readUpTo ending rest).map fun read => (c :: read.1, read.2)

/-- A string without escapes, after the letter that says so. It ends with as many number signs as
it begins with. -/
def readPlain (text : List Char) : Option (List Char × List Char) :=
  let signs := text.takeWhile (· = '#')
  match text.drop signs.length with
  | '"' :: rest => readUpTo ('"' :: signs) rest
  | _ => none

def readString : List Char → Option (String × List Char)
  | '"' :: rest =>
    (readQuoted .text (rest.length + 1) rest).map fun read => (String.ofList read.1, read.2)
  | 'r' :: rest => (readPlain rest).map fun read => (String.ofList read.1, read.2)
  | _ => none

def readCharacter : List Char → Option (Char × List Char)
  | '\'' :: '\\' :: rest =>
    match readEscape .character rest with
    | some (c, '\'' :: rest) => some (c, rest)
    | _ => none
  | '\'' :: c :: '\'' :: rest => some (c, rest)
  | _ => none

def afterOctets? (text : List Char) : Option (List Char) :=
  match afterMark? "b\"" text, afterMark? "br" text with
  | some rest, _ => (readQuoted .octets (rest.length + 1) rest).map fun read => read.2
  | none, some rest => (readPlain rest).map fun read => read.2
  | none, none => none

/-- A single octet between apostrophes, after the letter and the first of them. -/
def readOctetLiteral : List Char → Option (Nat × List Char)
  | '\\' :: 'u' :: _ => none
  | '\\' :: rest =>
    match readEscape .octets rest with
    | some (c, '\'' :: rest) => some (c.toNat, rest)
    | _ => none
  | c :: '\'' :: rest => if c.toNat < 128 then some (c.toNat, rest) else none
  | _ => none

end WordTally.Snapshot
