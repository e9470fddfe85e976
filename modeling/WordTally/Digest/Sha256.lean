set_option autoImplicit false

namespace WordTally.Digest

/-- The eight working words of a digest under way. -/
structure Chain where
  a : UInt32
  b : UInt32
  c : UInt32
  d : UInt32
  e : UInt32
  f : UInt32
  g : UInt32
  h : UInt32

def Chain.start : Chain :=
  ⟨0x6a09e667, 0xbb67ae85, 0x3c6ef372, 0xa54ff53a, 0x510e527f, 0x9b05688c, 0x1f83d9ab, 0x5be0cd19⟩

def roundConstants : List UInt32 :=
  [0x428a2f98, 0x71374491, 0xb5c0fbcf, 0xe9b5dba5, 0x3956c25b, 0x59f111f1, 0x923f82a4, 0xab1c5ed5,
   0xd807aa98, 0x12835b01, 0x243185be, 0x550c7dc3, 0x72be5d74, 0x80deb1fe, 0x9bdc06a7, 0xc19bf174,
   0xe49b69c1, 0xefbe4786, 0x0fc19dc6, 0x240ca1cc, 0x2de92c6f, 0x4a7484aa, 0x5cb0a9dc, 0x76f988da,
   0x983e5152, 0xa831c66d, 0xb00327c8, 0xbf597fc7, 0xc6e00bf3, 0xd5a79147, 0x06ca6351, 0x14292967,
   0x27b70a85, 0x2e1b2138, 0x4d2c6dfc, 0x53380d13, 0x650a7354, 0x766a0abb, 0x81c2c92e, 0x92722c85,
   0xa2bfe8a1, 0xa81a664b, 0xc24b8b70, 0xc76c51a3, 0xd192e819, 0xd6990624, 0xf40e3585, 0x106aa070,
   0x19a4c116, 0x1e376c08, 0x2748774c, 0x34b0bcb5, 0x391c0cb3, 0x4ed8aa4a, 0x5b9cca4f, 0x682e6ff3,
   0x748f82ee, 0x78a5636f, 0x84c87814, 0x8cc70208, 0x90befffa, 0xa4506ceb, 0xbef9a3f7, 0xc67178f2]

def rotateRight (x : UInt32) (n : UInt32) : UInt32 := (x >>> n) ||| (x <<< (32 - n))

def Chain.round (s : Chain) (constant word : UInt32) : Chain :=
  let mixE := rotateRight s.e 6 ^^^ rotateRight s.e 11 ^^^ rotateRight s.e 25
  let choice := (s.e &&& s.f) ^^^ ((~~~ s.e) &&& s.g)
  let first := s.h + mixE + choice + constant + word
  let mixA := rotateRight s.a 2 ^^^ rotateRight s.a 13 ^^^ rotateRight s.a 22
  let majority := (s.a &&& s.b) ^^^ (s.a &&& s.c) ^^^ (s.b &&& s.c)
  ⟨first + (mixA + majority), s.a, s.b, s.c, s.d + first, s.e, s.f, s.g⟩

def Chain.add (s t : Chain) : Chain :=
  ⟨s.a + t.a, s.b + t.b, s.c + t.c, s.d + t.d, s.e + t.e, s.f + t.f, s.g + t.g, s.h + t.h⟩

/-- The word that follows sixteen words of the schedule, the newest of them first. -/
def scheduled (newestFirst : List UInt32) : UInt32 :=
  let back := fun n : Nat => newestFirst.getD (n - 1) 0
  let near := back 2
  let far := back 15
  let mixNear := rotateRight near 17 ^^^ rotateRight near 19 ^^^ (near >>> 10)
  let mixFar := rotateRight far 7 ^^^ rotateRight far 18 ^^^ (far >>> 3)
  back 16 + mixFar + back 7 + mixNear

def extendSchedule : Nat → List UInt32 → List UInt32
  | 0, words => words
  | n + 1, words => extendSchedule n (scheduled words :: words)

def bigEndian (octets : List UInt8) : Nat := octets.foldl (fun n octet => n * 256 + octet.toNat) 0

def blockWords : Nat → List UInt8 → List UInt32
  | 0, _ => []
  | n + 1, octets => UInt32.ofNat (bigEndian (octets.take 4)) :: blockWords n (octets.drop 4)

def Chain.block (s : Chain) (octets : List UInt8) : Chain :=
  let schedule := (extendSchedule 48 (blockWords 16 octets).reverse).reverse
  s.add ((roundConstants.zip schedule).foldl (fun t pair => t.round pair.1 pair.2) s)

def Chain.blocks (s : Chain) : Nat → List UInt8 → Chain
  | 0, _ => s
  | n + 1, octets => (s.block (octets.take 64)).blocks n (octets.drop 64)

def octetsOf (n value : Nat) : List UInt8 :=
  (List.range n).reverse.map fun i => UInt8.ofNat (value / Nat.pow 256 i % 256)

/-- A one bit, zeros up to eight octets before a block boundary, and the length in bits. -/
def padded (message : List UInt8) : List UInt8 :=
  let zeros := (119 - message.length % 64) % 64
  message ++ 0x80 :: List.replicate zeros 0 ++ octetsOf 8 (8 * message.length)

def Chain.octets (s : Chain) : List UInt8 :=
  [s.a, s.b, s.c, s.d, s.e, s.f, s.g, s.h].flatMap fun word => octetsOf 4 word.toNat

def sha256 (message : List UInt8) : List UInt8 :=
  let octets := padded message
  (Chain.start.blocks (octets.length / 64) octets).octets

end WordTally.Digest
