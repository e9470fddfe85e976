set_option autoImplicit false

namespace WordTally.Text

inductive NumeralError where
  | empty
  | invalidDigit
  | tooLarge
  deriving DecidableEq, Repr

def NumeralError.message : NumeralError → String
  | .empty => "cannot parse integer from empty string"
  | .invalidDigit => "invalid digit found in string"
  | .tooLarge => "number too large to fit in target type"

def digitValue? (c : Char) : Option Nat :=
  if '0' ≤ c ∧ c ≤ '9' then some (c.toNat - '0'.toNat) else none

/-- Reads on after the digits whose value is `value`. A digit that exceeds the limit ends the
reading, whatever follows it. -/
def readDigits (limit value : Nat) : List Char → Except NumeralError Nat
  | [] => .ok value
  | c :: rest =>
    match digitValue? c with
    | none => .error .invalidDigit
    | some digit =>
      if value * 10 + digit ≤ limit then readDigits limit (value * 10 + digit) rest
      else .error .tooLarge

/-- Reads a number up to `limit`: digits, optionally after one plus sign. -/
def readNumeral (limit : Nat) (text : String) : Except NumeralError Nat :=
  match text.toList with
  | [] => .error .empty
  | ['+'] => .error .invalidDigit
  | '+' :: digits => readDigits limit 0 digits
  | digits => readDigits limit 0 digits

theorem readDigits_le {limit value number : Nat} {digits : List Char} (small : value ≤ limit)
    (read : readDigits limit value digits = .ok number) : number ≤ limit := by
  induction digits generalizing value with
  | nil => simp_all [readDigits]
  | cons c rest ih =>
    simp only [readDigits] at read
    split at read
    · simp at read
    · split at read
      next fits => exact ih fits read
      · simp at read

def max16 : Nat := 65535

def max32 : Nat := 4294967295

def max64 : Nat := 18446744073709551615

end WordTally.Text
