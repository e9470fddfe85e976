import WordTally.Text.Split
import WordTally.Url.Percent

set_option autoImplicit false

namespace WordTally

inductive UrlError where
  | emptyHost
  | invalidPort
  | invalidIpv4
  | invalidIpv6
  | invalidDomain
  | invalidDomainCharacter
  | relativeWithoutBase
  deriving DecidableEq, Repr

def UrlError.message : UrlError → String
  | .emptyHost => "empty host"
  | .invalidPort => "invalid port number"
  | .invalidIpv4 => "invalid IPv4 address"
  | .invalidIpv6 => "invalid IPv6 address"
  | .invalidDomain => "invalid international domain name"
  | .invalidDomainCharacter => "invalid domain character"
  | .relativeWithoutBase => "relative URL without a base"

namespace Url

open Text

inductive Host where
  | domain (name : String)
  | ipv4 (address : Nat)
  | ipv6 (pieces : List Nat)
  deriving DecidableEq, Repr, Inhabited

def digitsValue (base : Nat) (digits : List Char) : Option Nat :=
  digits.foldlM (fun value c => (hexValue? c).bind fun digit =>
    if digit < base then some (value * base + digit) else none) 0

/-- A part of an address: decimal, octal after a zero, hexadecimal after `0x`. -/
def ipv4Part? : List Char → Option Nat
  | [] => none
  | '0' :: 'x' :: digits | '0' :: 'X' :: digits => digitsValue 16 digits
  | '0' :: digit :: digits => digitsValue 8 (digit :: digits)
  | digits => digitsValue 10 digits

/-- A name whose last part is a number is an address or nothing; one dot may follow that part. -/
def endsInNumber (name : List Char) : Bool :=
  let parts := (pieces '.' name).reverse
  let last := match parts with
    | [] :: before :: _ => before
    | [] :: [] => []
    | last :: _ => last
    | [] => []
  (!last.isEmpty && last.all Char.isDigit) || (ipv4Part? last).isSome

/-- The last part fills all octets that the parts before it leave. -/
def ipv4? (name : List Char) : Except UrlError Nat :=
  let parts := pieces '.' name
  let parts := if parts.getLast? = some [] then parts.dropLast else parts
  match parts.mapM ipv4Part? with
  | some numbers =>
    match numbers.reverse with
    | last :: before =>
      if before.length ≤ 3 ∧ before.all (· ≤ 255) ∧ last < Nat.pow 256 (4 - before.length) then
        let leading := before.reverse.foldl (fun value n => value * 256 + n) 0
        .ok (leading * Nat.pow 256 (4 - before.length) + last)
      else .error .invalidIpv4
    | [] => .error .invalidIpv4
  | none => .error .invalidIpv4

def ipv4Text (address : Nat) : String :=
  ".".intercalate ([3, 2, 1, 0].map fun i => toString (address / Nat.pow 256 i % 256))

def ipv6Piece? (digits : List Char) : Option Nat :=
  if digits.isEmpty ∨ 4 < digits.length then none else digitsValue 16 digits

/-- Four plain decimal numbers, which stand for the last two pieces. -/
def dottedPieces? (text : List Char) : Option (List Nat) := do
  let numbers ← (pieces '.' text).mapM fun digits =>
    if digits.isEmpty ∨ (digits.head? = some '0' ∧ digits ≠ ['0']) then none
    else (digitsValue 10 digits).filter (· ≤ 255)
  match numbers with
  | [a, b, c, d] => some [a * 256 + b, c * 256 + d]
  | _ => none

def ipv6Pieces? : List (List Char) → Option (List Nat)
  | [] => some []
  | [last] => if last.contains '.' then dottedPieces? last else (ipv6Piece? last).map ([·])
  | first :: rest => do
    let piece ← ipv6Piece? first
    let pieces ← ipv6Pieces? rest
    some (piece :: pieces)

def splitAtGap : List Char → Option (List Char × List Char)
  | ':' :: ':' :: rest => some ([], rest)
  | c :: rest => (splitAtGap rest).map fun parts => (c :: parts.1, parts.2)
  | [] => none

def sidePieces? (side : List Char) : Option (List Nat) :=
  if side.isEmpty then some [] else ipv6Pieces? (pieces ':' side)

/-- Eight pieces, or fewer around a gap of zeros. -/
def ipv6? (text : List Char) : Except UrlError (List Nat) :=
  match splitAtGap text with
  | some (before, after) =>
    match sidePieces? before, sidePieces? after with
    | some before', some after' =>
      if before.contains '.' ∨ 7 < before'.length + after'.length then .error .invalidIpv6
      else .ok (before' ++ List.replicate (8 - before'.length - after'.length) 0 ++ after')
    | _, _ => .error .invalidIpv6
  | none =>
    match ipv6Pieces? (pieces ':' text) with
    | some pieces => if pieces.length = 8 then .ok pieces else .error .invalidIpv6
    | none => .error .invalidIpv6

/-- Where the first of the longest runs of zeros begins, and how long it is. -/
def longestZeros : Nat → List Nat → Nat × Nat
  | _, [] => (0, 0)
  | index, piece :: rest =>
    let here := ((piece :: rest).takeWhile (· == 0)).length
    let later := longestZeros (index + 1) rest
    if 0 < here ∧ later.2 ≤ here then (index, here) else later

def colonText (pieces : List Nat) : String :=
  ":".intercalate (pieces.map fun piece => String.ofList (Nat.toDigits 16 piece))

/-- The longest run of two zeros or more is left out. -/
def ipv6Text (pieces : List Nat) : String :=
  let (index, length) := longestZeros 0 pieces
  if 2 ≤ length then
    colonText (pieces.take index) ++ "::" ++ colonText (pieces.drop (index + length))
  else colonText pieces

def Host.text : Host → String
  | .domain name => name
  | .ipv4 address => ipv4Text address
  | .ipv6 pieces => "[" ++ ipv6Text pieces ++ "]"

def bracketed (text : List Char) : Except UrlError Host :=
  if text.getLast? = some ']' then (ipv6? (text.drop 1).dropLast).map .ipv6
  else .error .invalidIpv6

/-- Characters that no domain name holds. -/
def isForbidden (c : Char) : Bool :=
  c ≤ ' ' || c = '\x7f' ||
    ['%', '#', '/', ':', '<', '>', '?', '@', '[', '\\', ']', '^', '|'].contains c

/-- The host of a URL with one of the special schemes: a domain name in lower case or an address.
Names outside ASCII are refused. That such a name has a second form in ASCII, which could be taken
instead, is left out. -/
def Host.read (text : List Char) : Except UrlError Host :=
  if text.head? = some '[' then bracketed text
  else
    let octets := percentDecode text
    let name := octets.map fun octet => (Char.ofNat octet.toNat).toLower
    if octets.any (0x7f < ·) || name.any isForbidden then .error .invalidDomain
    else if name.isEmpty then .error .emptyHost
    else if endsInNumber name then (ipv4? name).map .ipv4
    else .ok (.domain (String.ofList name))

/-- Characters that the host of any other URL may not hold. -/
def isForbiddenPlain (c : Char) : Bool :=
  ['\x00', '\t', '\n', '\r', ' ', '#', '/', ':', '<', '>', '?', '@', '[', '\\', ']', '^',
    '|'].contains c

/-- The host of a URL with any other scheme, taken as it stands. -/
def Host.readPlain (text : List Char) : Except UrlError Host :=
  if text.head? = some '[' then bracketed text
  else if text.any isForbiddenPlain then .error .invalidDomainCharacter
  else .ok (.domain (String.ofList (percentEncode EncodeSet.none text)))

end Url

end WordTally
