import WordTally.Proofs.Text.Encoding
import WordTally.Url.Percent

set_option autoImplicit false

namespace WordTally

namespace Text

variable {c : Char} {octet : UInt8} {text other : String}

theorem utf8_injective (same : utf8 text = utf8 other) : text = other := by
  unfold utf8 at same
  rw [String.toUTF8_eq_toByteArray, String.toUTF8_eq_toByteArray, Array.toList_inj] at same
  exact String.toByteArray_inj.mp (ByteArray.ext same)

namespace Utf8

theorem le_of_mem_following {count value : Nat} (member : octet ∈ following count value) :
    0x80 ≤ octet.toNat := by
  induction count with
  | zero => cases member
  | succ count ih =>
    rcases List.mem_cons.mp member with rfl | later
    · rw [UInt8.toNat_ofNat']
      omega
    · exact ih later

theorem eq_of_mem_encodeChar (member : octet ∈ String.utf8EncodeChar c)
    (ascii : octet.toNat < 0x80) : Char.ofNat octet.toNat = c := by
  rw [encodeChar_eq] at member
  rcases List.mem_cons.mp member with rfl | behind
  · have top := val_lt c
    have small := lead_lt top
    rw [UInt8.toNat_ofNat', Nat.mod_eq_of_lt small] at ascii ⊢
    have single : lead c.val.toNat = c.toNat := by
      unfold lead at ascii ⊢
      split_ifs at ascii ⊢
      · rfl
      all_goals omega
    rw [single, Char.ofNat_toNat]
  · exact absurd (le_of_mem_following behind) (Nat.not_le.mpr ascii)

end Utf8

end Text

namespace Url

variable {c : Char} {set : EncodeSet} {octet : UInt8} {text : List Char}

theorem hexValue?_upperHexDigit : ∀ n < 16, hexValue? (upperHexDigit n) = some n := by decide

theorem utf8EncodeChar_ofNat :
    ∀ n < 0x80, String.utf8EncodeChar (Char.ofNat n) = [UInt8.ofNat n] := by
  decide

theorem percentDecode_cons_of_ne (plain : c ≠ '%') (rest : List Char) :
    percentDecode (c :: rest) = String.utf8EncodeChar c ++ percentDecode rest := by
  simp [percentDecode, plain]

theorem percentDecode_digits (octet : UInt8) (rest : List Char) :
    percentDecode ('%' :: upperHexDigit (octet.toNat / 16) :: upperHexDigit (octet.toNat % 16) ::
      rest) = octet :: percentDecode rest := by
  have small := octet.toNat_lt
  have high := hexValue?_upperHexDigit (octet.toNat / 16) (by omega)
  have low := hexValue?_upperHexDigit (octet.toNat % 16) (by omega)
  have whole : octet.toNat / 16 * 16 + octet.toNat % 16 = octet.toNat := by omega
  simp [percentDecode, high, low, whole]

theorem lt_of_not_mustEncode (kept : mustEncode set octet = false) :
    octet.toNat < 0x80 ∧ Char.ofNat octet.toNat ∉ set := by
  simp only [mustEncode, Bool.or_eq_false_iff, decide_eq_false_iff_not] at kept
  obtain ⟨⟨-, low⟩, outside⟩ := kept
  refine ⟨?_, by simpa using outside⟩
  rw [UInt8.lt_iff_toNat_lt] at low
  change ¬ 0x7e < octet.toNat at low
  omega

theorem percentDecode_encodeOctet (reserved : '%' ∈ set) (octet : UInt8) (rest : List Char) :
    percentDecode (encodeOctet set octet ++ rest) = octet :: percentDecode rest := by
  cases must : mustEncode set octet with
  | true =>
    rw [encodeOctet, must, if_pos rfl]
    exact percentDecode_digits octet rest
  | false =>
    obtain ⟨ascii, outside⟩ := lt_of_not_mustEncode must
    have plain : Char.ofNat octet.toNat ≠ '%' := fun same => outside (same ▸ reserved)
    rw [encodeOctet, must, if_neg Bool.false_ne_true, List.singleton_append,
      percentDecode_cons_of_ne plain, utf8EncodeChar_ofNat _ ascii, UInt8.ofNat_toNat]
    rfl

theorem percentDecode_flatMap (reserved : '%' ∈ set) (octets : List UInt8) (rest : List Char) :
    percentDecode (octets.flatMap (encodeOctet set) ++ rest) = octets ++ percentDecode rest := by
  induction octets with
  | nil => rfl
  | cons octet octets ih =>
    rw [List.flatMap_cons, List.append_assoc, percentDecode_encodeOctet reserved, ih]
    rfl

/-- Decoding an encoded text gives its octets. -/
theorem percentDecode_percentEncode (reserved : '%' ∈ set) (name : String) :
    percentDecode (percentEncode set name.toList) = Text.utf8 name := by
  have decoded := percentDecode_flatMap reserved (name.toList.flatMap String.utf8EncodeChar) []
  rw [List.append_nil] at decoded
  rw [percentEncode, decoded, Text.utf8_eq_flatMap]
  exact List.append_nil _

def escapes : List Char := "%0123456789ABCDEF".toList

theorem upperHexDigit_mem : ∀ n < 16, upperHexDigit n ∈ escapes := by decide

theorem mem_percentEncode (stands : c ∈ percentEncode set text) :
    c ∈ escapes ∨ c ∈ text ∧ c ∉ set := by
  obtain ⟨octet, inside, found⟩ := List.mem_flatMap.mp stands
  obtain ⟨d, member, part⟩ := List.mem_flatMap.mp inside
  have small := octet.toNat_lt
  cases must : mustEncode set octet with
  | true =>
    left
    rw [encodeOctet, must, if_pos rfl] at found
    simp only [List.mem_cons, List.not_mem_nil, or_false] at found
    rcases found with rfl | rfl | rfl
    · decide
    · exact upperHexDigit_mem _ (by omega)
    · exact upperHexDigit_mem _ (by omega)
  | false =>
    right
    rw [encodeOctet, must, if_neg Bool.false_ne_true, List.mem_singleton] at found
    subst found
    obtain ⟨ascii, outside⟩ := lt_of_not_mustEncode must
    rw [Text.Utf8.eq_of_mem_encodeChar part ascii] at outside ⊢
    exact ⟨member, outside⟩

theorem percentEncode_ne_nil (some_char : text ≠ []) : percentEncode set text ≠ [] := by
  obtain ⟨c, rest, rfl⟩ := List.exists_cons_of_ne_nil some_char
  rw [percentEncode, List.flatMap_cons, Text.Utf8.encodeChar_eq, List.cons_append, List.flatMap_cons]
  unfold encodeOctet
  split <;> simp

end Url

end WordTally
