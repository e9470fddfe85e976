import WordTally.Snapshot.Lexeme

set_option autoImplicit false

namespace WordTally.Snapshot

/-- Digits of any base up to sixteen, and what may separate them. -/
def isIntegerPart (c : Char) : Bool := (hexDigit? c).isSome || c = '_'

/-- The types that a number may name after its digits. -/
inductive IntegerType where
  | signed (bits : Nat)
  | unsigned (bits : Nat)
  deriving DecidableEq, Repr

namespace IntegerType

def name : IntegerType → String
  | .signed bits => "i" ++ toString bits
  | .unsigned bits => "u" ++ toString bits

def all : List IntegerType :=
  [8, 16, 32, 64].map signed ++ [8, 16, 32, 64].map unsigned

def holds (value : Int) : IntegerType → Bool
  | .signed bits => -(Nat.pow 2 (bits - 1) : Int) ≤ value ∧ value < Nat.pow 2 (bits - 1)
  | .unsigned bits => 0 ≤ value ∧ value < Nat.pow 2 bits

def read? (text : List Char) : Option (IntegerType × List Char) :=
  all.findSome? fun type => (afterName? type.name text).map fun rest => (type, rest)

end IntegerType

/-- How an attempt at a whole number fails: where it stopped. -/
abbrev IntegerReading := Except (List Char) (Int × List Char)

/-- The value of digits; what separates them is passed over. The text after them is left. A digit
that the base does not have ends the attempt. -/
def digitsValue (base : Nat) (after : List Char) : Nat → List Char → Except (List Char) Nat
  | value, [] => .ok value
  | value, c :: rest =>
    if c = '_' then digitsValue base after value rest
    else match hexDigit? c with
      | some digit =>
        if digit < base then digitsValue base after (value * base + digit) rest
        else .error (c :: rest ++ after)
      | none => .error (c :: rest ++ after)

/-- The base that a text announces, and the text after that. -/
def readBase (text : List Char) : Nat × List Char :=
  match afterMark? "0b" text, afterMark? "0o" text, afterMark? "0x" text with
  | some rest, _, _ => (2, rest)
  | none, some rest, _ => (8, rest)
  | none, none, some rest => (16, rest)
  | none, none, none => (10, text)

/-- The digits after a sign, as a number that a type holds. -/
def readDigits (type : IntegerType) (negative : Bool) (text : List Char) : IntegerReading :=
  let (base, text) := readBase text
  let digits := text.takeWhile isIntegerPart
  let after := text.drop digits.length
  if digits.isEmpty || digits.head? = some '_' then .error text
  else match digitsValue base after 0 digits with
    | .error rest => .error rest
    | .ok magnitude =>
      let value : Int := if negative then -(magnitude : Int) else magnitude
      if type.holds value then .ok (value, after) else .error after

def widest (negative : Bool) : IntegerType := if negative then .signed 64 else .unsigned 64

/-- A whole number after its sign, of the type that it names or else of the widest. -/
def readMagnitude (negative : Bool) (text : List Char) : IntegerReading :=
  let after := text.dropWhile isIntegerPart
  match IntegerType.read? after with
  | none => readDigits (widest negative) negative text
  | some (type, rest) =>
    match readDigits type negative text with
    | .ok (value, _) => .ok (value, rest)
    | .error stop => .error (if stop.length ≤ after.length then rest else stop)

def readInteger (text : List Char) : IntegerReading :=
  match text with
  | '+' :: rest => readMagnitude false rest
  | '-' :: rest => readMagnitude true rest
  | 'b' :: '\'' :: rest =>
    match readOctetLiteral rest with
    | some (value, rest) => .ok ((value : Int), rest)
    | none => .error []
  | _ => readMagnitude false text

/-- A count. A minus sign is possible only before a zero whose type has a sign or is named. -/
def readCount (text : List Char) : Option (Nat × List Char) :=
  match readInteger text with
  | .error _ => none
  | .ok (value, rest) =>
    let named := (IntegerType.read? ((text.drop 1).dropWhile isIntegerPart)).isSome
    if text.head? = some '-' && !named then none
    else if IntegerType.holds value (.unsigned 64) then some (value.toNat, rest) else none

def isFloatPart (c : Char) : Bool :=
  ('0' ≤ c ∧ c ≤ '9') || ['e', 'E', '.', '+', '-', '_'].contains c

def isDigit (c : Char) : Bool := '0' ≤ c ∧ c ≤ '9'

def afterSign : List Char → List Char
  | '+' :: rest | '-' :: rest => rest
  | text => text

/-- A sign perhaps, digits with a point perhaps, and an exponent perhaps. -/
def isDecimal (text : List Char) : Bool :=
  let text := afterSign text
  let whole := text.takeWhile isDigit
  let text := text.drop whole.length
  let (fraction, text) := match text with
    | '.' :: rest => (rest.takeWhile isDigit, rest.dropWhile isDigit)
    | _ => ([], text)
  if whole.isEmpty && fraction.isEmpty then false
  else match text with
    | [] => true
    | mark :: exponent =>
      let digits := afterSign exponent
      (mark = 'e' || mark = 'E') && !digits.isEmpty && digits.all isDigit

/-- A number without the marks that separate its digits. None stands at the beginning or after a
point. -/
def joinDigits : Bool → List Char → Option (List Char)
  | _, [] => some []
  | allowed, c :: rest =>
    if c = '_' then (if allowed then joinDigits allowed rest else none)
    else
      let allowed :=
        if isDigit c || c = 'e' || c = 'E' then true else if c = '.' then false else allowed
      (joinDigits allowed rest).map (c :: ·)

def floatTypes : List String := ["f32", "f64"]

def floatWords : List String := ["inf", "+inf", "-inf", "NaN", "+NaN", "-NaN"]

def afterAnyName? (names : List String) (text : List Char) : Option (List Char) :=
  names.findSome? fun name => afterName? name text

/-- The text after a number that need not be whole. -/
def afterFloat? (text : List Char) : Option (List Char) :=
  let words := floatWords.flatMap fun word => word :: floatTypes.map (word ++ ·)
  match afterAnyName? words text with
  | some rest => some rest
  | none =>
    let digits := text.takeWhile isFloatPart
    let after := text.drop digits.length
    match joinDigits false digits with
    | none => none
    | some number =>
      if isDecimal number then some ((afterAnyName? floatTypes after).getD after) else none

/-- The text after any number. What is no whole number, or too large a one, may be a number of the
other kind, provided that it goes at least as far. -/
def afterNumber? (text : List Char) : Option (List Char) :=
  let body := afterSign text
  if (body.takeWhile isIntegerPart).length < (body.takeWhile isFloatPart).length then
    afterFloat? text
  else match readInteger text with
    | .ok (_, rest) => some rest
    | .error stop =>
      match afterFloat? text with
      | some rest => if rest.length ≤ stop.length then some rest else none
      | none => none

end WordTally.Snapshot
