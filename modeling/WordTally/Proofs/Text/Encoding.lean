import Mathlib.Algebra.Group.Nat.Defs
import Mathlib.Tactic.Common

set_option autoImplicit false

namespace WordTally.Text

namespace Utf8

/-- How many octets follow the first one of a code point. -/
def width (value : Nat) : Nat :=
  if value ≤ 0x7f then 0 else if value ≤ 0x7ff then 1 else if value ≤ 0xffff then 2 else 3

def lead (value : Nat) : Nat :=
  if value ≤ 0x7f then value
  else if value ≤ 0x7ff then value / 64 % 32 + 0xc0
  else if value ≤ 0xffff then value / 4096 % 16 + 0xe0
  else value / 262144 % 8 + 0xf0

/-- So many octets with six bits each, the highest bits first. -/
def following : Nat → Nat → List UInt8
  | 0, _ => []
  | count + 1, value => UInt8.ofNat (value / 64 ^ count % 64 + 0x80) :: following count value

theorem encodeChar_eq (c : Char) : String.utf8EncodeChar c =
    UInt8.ofNat (lead c.val.toNat) :: following (width c.val.toNat) c.val.toNat := by
  unfold String.utf8EncodeChar lead width
  dsimp only
  split
  · rfl
  · split
    · simp [following]
    · split <;> simp [following]

theorem cons_ofNat_lt {m n : Nat} {one other : List UInt8} (small : n < 256)
    (less : m < n ∨ m = n ∧ one < other) : UInt8.ofNat m :: one < UInt8.ofNat n :: other := by
  rw [List.cons_lt_cons_iff, UInt8.lt_iff_toNat_lt, UInt8.toNat_ofNat', UInt8.toNat_ofNat']
  rcases less with less | ⟨rfl, less⟩
  · left
    omega
  · exact .inr ⟨rfl, less⟩

variable {count m n : Nat} {c d : Char}

/-- Numbers that agree above some groups of six bits are told apart by these. -/
theorem following_lt (less : m < n) (same : m / 64 ^ count = n / 64 ^ count)
    (after behind : List UInt8) : following count m ++ after < following count n ++ behind := by
  induction count with
  | zero =>
    rw [pow_zero, Nat.div_one, Nat.div_one] at same
    omega
  | succ count ih =>
    rw [pow_succ, ← Nat.div_div_eq_div_mul, ← Nat.div_div_eq_div_mul] at same
    have ordered : m / 64 ^ count ≤ n / 64 ^ count := Nat.div_le_div_right (Nat.le_of_lt less)
    refine cons_ofNat_lt (by omega) ?_
    rcases Nat.lt_or_eq_of_le ordered with lower | equal
    · left
      omega
    · exact .inr ⟨by rw [equal], ih equal⟩

theorem lead_lt_or (less : m < n) (top : n < 0x110000) :
    lead m < lead n ∨
      lead m = lead n ∧ width m = width n ∧ m / 64 ^ width m = n / 64 ^ width m := by
  unfold lead width
  split_ifs <;> omega

theorem lead_lt (top : n < 0x110000) : lead n < 256 := by
  unfold lead
  split_ifs <;> omega

theorem val_lt (c : Char) : c.val.toNat < 0x110000 := by
  rcases c.valid with low | ⟨_, high⟩
  · change c.val.toNat < 0xd800 at low
    omega
  · exact high

/-- The encoding of the lower character is lower, whatever follows the two. -/
theorem encodeChar_lt (less : c < d) (after behind : List UInt8) :
    String.utf8EncodeChar c ++ after < String.utf8EncodeChar d ++ behind := by
  have below : c.val.toNat < d.val.toNat := less
  have top := val_lt d
  rw [encodeChar_eq, encodeChar_eq]
  refine cons_ofNat_lt (lead_lt top) ?_
  rcases lead_lt_or below top with lower | ⟨equal, widths, high⟩
  · exact .inl lower
  · right
    rw [← widths]
    exact ⟨equal, following_lt below high after behind⟩

theorem encode_lt {one other : List Char} (less : one < other) :
    one.flatMap String.utf8EncodeChar < other.flatMap String.utf8EncodeChar := by
  induction less with
  | nil =>
    rw [List.flatMap_nil, List.flatMap_cons, encodeChar_eq]
    exact List.nil_lt_cons _ _
  | rel lower => exact encodeChar_lt lower _ _
  | cons _ ih => exact List.append_left_lt ih

end Utf8

def utf8 (text : String) : List UInt8 := text.toUTF8.data.toList

theorem utf8_eq_flatMap (text : String) : utf8 text = text.toList.flatMap String.utf8EncodeChar := by
  unfold utf8
  rw [String.toUTF8_eq_toByteArray, ← String.utf8Encode_toList, List.utf8Encode,
    List.data_toByteArray]

/-- The order of texts by code points is the order of their encodings by octets. -/
theorem utf8_lt_iff {text other : String} : utf8 text < utf8 other ↔ text < other := by
  have forward : ∀ {one another : String}, one < another → utf8 one < utf8 another := by
    intro one another less
    rw [utf8_eq_flatMap, utf8_eq_flatMap]
    exact Utf8.encode_lt (String.lt_iff.mp less)
  refine ⟨fun less => ?_, forward⟩
  by_contra notLess
  by_cases above : other < text
  · exact List.lt_asymm less (forward above)
  · have same := String.le_antisymm (String.not_lt.mp above) (String.not_lt.mp notLess)
    rw [same] at less
    exact List.lt_irrefl _ less

end WordTally.Text
