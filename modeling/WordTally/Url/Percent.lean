set_option autoImplicit false

namespace WordTally.Url

/-- ASCII characters to encode, controls aside. -/
abbrev EncodeSet := List Char

namespace EncodeSet

def none : EncodeSet := []

def fragment : EncodeSet := [' ', '"', '<', '>', '\x60']

def query : EncodeSet := [' ', '"', '#', '<', '>']

def specialQuery : EncodeSet := query ++ ['\x27']

def path : EncodeSet := fragment ++ ['#', '?', '\x7b', '\x7d']

/-- One segment of a path: nothing in it separates segments, and nothing in it looks encoded. -/
def segment : EncodeSet := path ++ ['/', '%']

def specialSegment : EncodeSet := segment ++ ['\\']

def userinfo : EncodeSet := path ++ ['/', ':', ';', '=', '@', '[', '\\', ']', '^', '|']

end EncodeSet

def upperHexDigit (n : Nat) : Char :=
  if n < 10 then Char.ofNat (0x30 + n) else Char.ofNat (0x41 + n - 10)

def mustEncode (set : EncodeSet) (octet : UInt8) : Bool :=
  octet < 0x20 || 0x7e < octet || set.contains (Char.ofNat octet.toNat)

def encodeOctet (set : EncodeSet) (octet : UInt8) : List Char :=
  if mustEncode set octet then
    ['%', upperHexDigit (octet.toNat / 16), upperHexDigit (octet.toNat % 16)]
  else [Char.ofNat octet.toNat]

def percentEncode (set : EncodeSet) (text : List Char) : List Char :=
  (text.flatMap String.utf8EncodeChar).flatMap (encodeOctet set)

def hexValue? (c : Char) : Option Nat :=
  if '0' ≤ c ∧ c ≤ '9' then some (c.toNat - '0'.toNat)
  else if 'a' ≤ c ∧ c ≤ 'f' then some (c.toNat - 'a'.toNat + 10)
  else if 'A' ≤ c ∧ c ≤ 'F' then some (c.toNat - 'A'.toNat + 10)
  else none

/-- A percent sign that is not followed by two hexadecimal digits stands for itself. -/
def percentDecode : List Char → List UInt8
  | [] => []
  | '%' :: a :: b :: rest =>
    match hexValue? a, hexValue? b with
    | some high, some low => UInt8.ofNat (high * 16 + low) :: percentDecode rest
    | _, _ => 0x25 :: percentDecode (a :: b :: rest)
  | c :: rest => String.utf8EncodeChar c ++ percentDecode rest

end WordTally.Url
