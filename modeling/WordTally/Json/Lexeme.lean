import WordTally.Json.Fault
import WordTally.Json.Value
import WordTally.Text.Numeral

/-
Strings and numbers in the octets of a JSON text.

A value that is wanted is judged in full. A value that is only passed over is judged less strictly:
its strings may hold lone surrogates and octets that are no UTF-8, and its numbers may have any
size. So each lexeme has two readings, one for its value and one for its end.
-/

set_option autoImplicit false

namespace WordTally.Json

abbrev Octets := List UInt8

def isSpace (b : UInt8) : Bool := b == 0x20 || b == 0x0a || b == 0x0d || b == 0x09

def skipSpace (octets : Octets) : Octets := octets.dropWhile isSpace

def isDigit (b : UInt8) : Bool := 0x30 ≤ b && b ≤ 0x39

def digitOf (b : UInt8) : Nat := b.toNat - 0x30

def hexDigit? (b : UInt8) : Option Nat :=
  if isDigit b then some (digitOf b)
  else if 0x61 ≤ b ∧ b ≤ 0x66 then some (b.toNat - 0x61 + 10)
  else if 0x41 ≤ b ∧ b ≤ 0x46 then some (b.toNat - 0x41 + 10)
  else none

def simpleEscape? (b : UInt8) : Option UInt8 :=
  if b = 0x22 ∨ b = 0x5c ∨ b = 0x2f then some b
  else if b = 0x62 then some 0x08
  else if b = 0x66 then some 0x0c
  else if b = 0x6e then some 0x0a
  else if b = 0x72 then some 0x0d
  else if b = 0x74 then some 0x09
  else none

def hexQuad : Octets → Except Fault (Nat × Octets)
  | a :: b :: c :: d :: rest =>
    match hexDigit? a, hexDigit? b, hexDigit? c, hexDigit? d with
    | some a, some b, some c, some d => .ok (((a * 16 + b) * 16 + c) * 16 + d, rest)
    | _, _, _, _ => .error .badEscape
  | _ => .error .endInString

/-- The second half of a surrogate pair, an escape of its own. -/
def lowSurrogate (high : Nat) : Octets → Except Fault (Octets × Octets)
  | [] => .error .endInString
  | 0x5c :: [] => .error .endInString
  | 0x5c :: 0x75 :: rest => do
    let (low, rest) ← hexQuad rest
    if 0xdc00 ≤ low ∧ low ≤ 0xdfff then
      .ok (String.utf8EncodeChar
        (Char.ofNat ((high - 0xd800) * 0x400 + (low - 0xdc00) + 0x10000)), rest)
    else .error .loneSurrogate
  | _ => .error .missingLowSurrogate

/-- The octets that an escape stands for; the backslash is read. -/
def escape : Octets → Except Fault (Octets × Octets)
  | [] => .error .endInString
  | 0x75 :: rest => do
    let (unit, rest) ← hexQuad rest
    if 0xdc00 ≤ unit ∧ unit ≤ 0xdfff then .error .loneSurrogate
    else if 0xd800 ≤ unit ∧ unit ≤ 0xdbff then lowSurrogate unit rest
    else .ok (String.utf8EncodeChar (Char.ofNat unit), rest)
  | b :: rest =>
    match simpleEscape? b with
    | some octet => .ok ([octet], rest)
    | none => .error .badEscape

/-- The octets of a string up to its closing quote, after those already read, the last of them
first. No string is longer than `fuel`, the number of octets at hand. -/
def stringOctets : Nat → Octets → Octets → Except Fault Octets
  | 0, _, _ => .error .endInString
  | _ + 1, _, [] => .error .endInString
  | fuel + 1, before, b :: rest =>
    if b = 0x22 then .ok before.reverse
    else if b = 0x5c then
      match escape rest with
      | .ok (octets, rest) => stringOctets fuel (octets.reverse ++ before) rest
      | .error fault => .error fault
    else if b < 0x20 then .error .controlCharacter
    else stringOctets fuel (b :: before) rest

def stringValue (fuel : Nat) (octets : Octets) : Except Fault String := do
  let content ← stringOctets fuel [] octets
  match String.fromUTF8? content.toByteArray with
  | some text => .ok text
  | none => .error .badUtf8

/-- What follows the closing quote of a string that is passed over. -/
def afterString : Nat → Octets → Except Fault Octets
  | 0, _ => .error .endInString
  | _ + 1, [] => .error .endInString
  | fuel + 1, b :: rest =>
    if b = 0x22 then .ok rest
    else if b = 0x5c then
      match rest with
      | [] => .error .endInString
      | 0x75 :: rest =>
        match hexQuad rest with
        | .ok (_, rest) => afterString fuel rest
        | .error fault => .error fault
      | e :: rest => if (simpleEscape? e).isSome then afterString fuel rest else .error .badEscape
    else if b < 0x20 then .error .controlCharacter
    else afterString fuel rest

/-- The parts of a number as written. A part that is left out is nothing. -/
structure Numeral where
  negative : Bool
  whole : List Nat
  fraction : Option (List Nat)
  exponent : Option (Bool × List Nat)
  deriving DecidableEq, Repr

/-- How a number breaks off: the text ends, or something else stands where a digit should. -/
inductive NumeralBreak where
  | textEnds
  | noDigit
  deriving DecidableEq, Repr

def digits (octets : Octets) : List Nat × Octets :=
  ((octets.takeWhile isDigit).map digitOf, octets.dropWhile isDigit)

def someDigits (octets : Octets) : Except NumeralBreak (List Nat × Octets) :=
  match digits octets with
  | ([], []) => .error .textEnds
  | ([], _ :: _) => .error .noDigit
  | found => .ok found

def exponentPart (numeral : Numeral) : Octets → Except NumeralBreak (Numeral × Octets)
  | e :: rest =>
    if e = 0x65 ∨ e = 0x45 then do
      let (negative, rest) := match rest with
        | 0x2b :: rest => (false, rest)
        | 0x2d :: rest => (true, rest)
        | rest => (false, rest)
      let (found, rest) ← someDigits rest
      .ok ({ numeral with exponent := some (negative, found) }, rest)
    else .ok (numeral, e :: rest)
  | [] => .ok (numeral, [])

def fractionPart (numeral : Numeral) : Octets → Except NumeralBreak (Numeral × Octets)
  | 0x2e :: rest => do
    let (found, rest) ← someDigits rest
    exponentPart { numeral with fraction := some found } rest
  | rest => exponentPart numeral rest

/-- A number whose sign is read. A zero is not followed by another digit. -/
def numeral (negative : Bool) (octets : Octets) : Except NumeralBreak (Numeral × Octets) := do
  let (whole, rest) ← someDigits octets
  match whole with
  | 0 :: _ :: _ => .error .noDigit
  | _ => fractionPart ⟨negative, whole, none, none⟩ rest

/-- Appends digits to a significand while it fits into 64 bits, and counts those left over. -/
def gather (significand : Nat) : List Nat → Nat × Nat
  | [] => (significand, 0)
  | digit :: rest =>
    if significand * 10 + digit ≤ Text.max64 then gather (significand * 10 + digit) rest
    else (significand, (digit :: rest).length)

def natOfDigits (found : List Nat) : Nat := found.foldl (fun n digit => n * 10 + digit) 0

/-- A whole number that fits into 64 bits, signed or unsigned, is exact; minus zero is not whole.
Everything else is a floating point number, from as many digits as 64 bits hold. -/
def Numeral.value (numeral : Numeral) : Except Fault Number :=
  let (whole, dropped) := gather 0 numeral.whole
  if dropped = 0 ∧ numeral.fraction = none ∧ numeral.exponent = none
      ∧ (numeral.negative → 0 < whole ∧ whole ≤ Nat.pow 2 63) then
    .ok (.integer (if numeral.negative then -whole else whole))
  else
    let fraction := numeral.fraction.getD []
    let (significand, ignored) := gather whole fraction
    let scale : Int := dropped - (fraction.length - ignored : Nat)
    let written : Int := match numeral.exponent with
      | some (true, found) => -natOfDigits found
      | some (false, found) => natOfDigits found
      | none => 0
    match Decimal.fromParts numeral.negative significand (scale + written) with
    | some x => .ok (.real x)
    | none => .error .numberTooLarge

end WordTally.Json
