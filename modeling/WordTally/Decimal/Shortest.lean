import WordTally.Decimal.Binary64

set_option autoImplicit false

namespace WordTally.Decimal

/-- The real numbers that round to a floating point number, as quarters of a unit in the last
place: `low`, `value` and `high` times `2 ^ exponent`. The ends belong to the interval when
`closed`. -/
structure Rounding where
  low : Nat
  value : Nat
  high : Nat
  exponent : Int
  closed : Bool

/-- Below a power of two the next number is only half as far away. -/
def Binary64.rounding (x : Binary64) : Rounding :=
  let m := x.significand
  let below := if x.fractionField = 0 ∧ 1 < x.exponentField then 1 else 2
  ⟨4 * m - below, 4 * m, 4 * m + 2, x.exponent - 2, m % 2 == 0⟩

/-- Of the two multiples of `10 ^ k` around the value, the nearest that rounds to the number. A tie
goes to the even one. -/
def Rounding.onGrid (r : Rounding) (k : Int) : Option Nat :=
  let up := Nat.pow 2 r.exponent.toNat * Nat.pow 10 (-k).toNat
  let unit := Nat.pow 2 (-r.exponent).toNat * Nat.pow 10 k.toNat
  let inside := fun d : Nat =>
    if r.closed then r.low * up ≤ d * unit && d * unit ≤ r.high * up
    else r.low * up < d * unit && d * unit < r.high * up
  let floor := r.value * up / unit
  let twice := 2 * (r.value * up - floor * unit)
  let near := if twice < unit ∨ (twice = unit ∧ floor % 2 = 0) then floor else floor + 1
  let far := if near = floor then floor + 1 else floor
  if 0 < near && inside near then some near
  else if 0 < far && inside far then some far
  else none

/-- Tries ever finer grids, the next one being that of `10 ^ k`. -/
def Rounding.search (r : Rounding) : Nat → Int → Nat × Int
  | 0, _ => (0, 0)
  | steps + 1, k =>
    match r.onGrid k with
    | some digits => (digits, k)
    | none => r.search steps (k - 1)

/-- Digits `d` and exponent `k` of the shortest decimal `d * 10 ^ k` that rounds to the absolute
value of a finite number other than zero. The search begins above the leading digit, and seventeen
digits are always enough. -/
def shortest (x : Binary64) : Nat × Int :=
  let magnitude : Int := Nat.log2 x.significand + x.exponent
  x.rounding.search 22 (magnitude * 30103 / 100000 + 2)

/-- Positional up to sixteen digits before the point and five zeros after it, with an exponent
beyond that. A whole number keeps one zero after the point. -/
def layout (digits : List Char) (k : Int) : List Char :=
  let point := (digits.length : Int) + k
  if 0 ≤ k ∧ point ≤ 16 then digits ++ List.replicate k.toNat '0' ++ ['.', '0']
  else if 0 < point ∧ point ≤ 16 then
    digits.take point.toNat ++ '.' :: digits.drop point.toNat
  else if -5 < point ∧ point ≤ 0 then
    '0' :: '.' :: List.replicate (-point).toNat '0' ++ digits
  else
    let exponent := 'e' :: (toString (point - 1)).toList
    match digits with
    | [digit] => digit :: exponent
    | digit :: rest => digit :: '.' :: rest ++ exponent
    | [] => []

def Binary64.text (x : Binary64) : String :=
  let sign := if x.isNegative then ['-'] else []
  if x.isZero then String.ofList (sign ++ ['0', '.', '0'])
  else
    let (digits, k) := shortest x
    String.ofList (sign ++ layout (Nat.toDigits 10 digits) k)

end WordTally.Decimal
