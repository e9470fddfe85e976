set_option autoImplicit false

namespace WordTally.Decimal

structure Binary64 where
  bits : UInt64
  deriving DecidableEq, Repr, Inhabited

namespace Binary64

def ofFloat (x : Float) : Binary64 := ⟨x.toBits⟩

def toFloat (x : Binary64) : Float := Float.ofBits x.bits

def isNegative (x : Binary64) : Bool := x.bits >>> 63 == 1

def exponentField (x : Binary64) : Nat := ((x.bits >>> 52) &&& 0x7ff).toNat

def fractionField (x : Binary64) : Nat := (x.bits &&& 0xfffffffffffff).toNat

/-- The whole number `m` in the absolute value `m * 2 ^ q` of a finite number. -/
def significand (x : Binary64) : Nat :=
  if x.exponentField = 0 then x.fractionField else x.fractionField + Nat.pow 2 52

/-- The exponent `q` in the absolute value `m * 2 ^ q` of a finite number. -/
def exponent (x : Binary64) : Int :=
  if x.exponentField = 0 then -1074 else (x.exponentField : Int) - 1075

def isZero (x : Binary64) : Bool := x.significand == 0

end Binary64

def powerOfTen (n : Nat) : Float := Float.ofScientific 1 false n

/-- `f` times `10 ^ exponent` by a single product or quotient when the power is at most `10 ^ 308`;
smaller scales are reached by steps of `10 ^ 308`. Nothing when the result is too large. -/
def scaled : Nat → Float → Int → Option Float
  | 0, f, _ => some f
  | steps + 1, f, exponent =>
    if exponent.natAbs ≤ 308 then
      if 0 ≤ exponent then
        let product := f * powerOfTen exponent.natAbs
        if product.isInf then none else some product
      else some (f / powerOfTen exponent.natAbs)
    else if f == 0.0 then some f
    else if 0 ≤ exponent then none
    else scaled steps (f / powerOfTen 308) (exponent + 308)

/-- The number `significand * 10 ^ exponent` with a sign; `significand` has at most 64 bits. Three
steps of `10 ^ 308` take every such significand to zero. -/
def fromParts (negative : Bool) (significand : Nat) (exponent : Int) : Option Binary64 :=
  (scaled 4 (UInt64.ofNat significand).toFloat exponent).map fun f =>
    Binary64.ofFloat (if negative then -f else f)

end WordTally.Decimal
