import WordTally.Snapshot.Document

set_option autoImplicit false

namespace WordTally.Snapshot

/-- No comment hides behind the blanks that a text begins with. -/
theorem skipBlanks_append (gap : List Char) {rest : List Char} {c : Char}
    (blank : gap.all isBlank = true) (visible : isBlank c = false) (plain : c ≠ '/') :
    skipBlanks (gap ++ c :: rest) = some (c :: rest) := by
  have dropped : (gap ++ c :: rest).dropWhile isBlank = c :: rest := by
    rw [List.dropWhile_append_of_pos (fun d member => List.all_eq_true.mp blank d member),
      List.dropWhile_cons_of_neg (by simp [visible])]
  rw [skipBlanks, afterBlanks, dropped]
  split <;> simp_all

theorem skipBlanks_cons {c : Char} (rest : List Char) (visible : isBlank c = false)
    (plain : c ≠ '/') : skipBlanks (c :: rest) = some (c :: rest) :=
  skipBlanks_append [] rfl visible plain

@[simp] theorem skipBlanks_nil : skipBlanks [] = some [] := rfl

theorem readComma_skipped {text shown : List Char} (skipped : skipBlanks text = some shown) :
    readComma (',' :: text) = some (true, shown) := by
  simp [readComma, skipBlanks_cons (c := ',') _ rfl (by decide), skipped]

theorem readComma_close (rest : List Char) :
    readComma (')' :: rest) = some (false, ')' :: rest) := by
  simp [readComma, skipBlanks_cons (c := ')') _ rfl (by decide)]

theorem hexDigit?_digitChar : ∀ digit < 16, hexDigit? (Nat.digitChar digit) = some digit := by
  decide

theorem digitChar_ne_brace : ∀ digit < 16, Nat.digitChar digit ≠ '\x7d' := by decide

theorem exists_of_mem_toDigits {base n : Nat} {c : Char} (valid : 1 < base)
    (member : c ∈ Nat.toDigits base n) : ∃ digit < base, c = Nat.digitChar digit := by
  induction n using Nat.strongRecOn with
  | ind n ih =>
    rw [Nat.toDigits_eq_if valid] at member
    split at member
    next small => exact ⟨n, small, List.mem_singleton.mp member⟩
    next large =>
      rcases List.mem_append.mp member with before | last
      · exact ih (n / base) (Nat.div_lt_self (by omega) valid) before
      · exact ⟨n % base, Nat.mod_lt n (by omega), List.mem_singleton.mp last⟩

theorem toDigits_eq_cons {base : Nat} (valid : 1 < base) (n : Nat) :
    ∃ digit more, digit < base ∧ Nat.toDigits base n = Nat.digitChar digit :: more := by
  obtain ⟨c, more, written⟩ := List.exists_cons_of_ne_nil (Nat.toDigits_ne_nil (b := base) (n := n))
  have member : c ∈ Nat.toDigits base n := written ▸ List.mem_cons_self
  obtain ⟨digit, small, rfl⟩ := exists_of_mem_toDigits valid member
  exact ⟨digit, more, small, written⟩

theorem readCodePoint_digitChar {digit : Nat} (small : digit < 16) (digits value : Nat)
    (rest : List Char) :
    readCodePoint (digits + 1) value (Nat.digitChar digit :: rest) =
      readCodePoint digits (value * 16 + digit) rest := by
  simp only [readCodePoint, if_neg (digitChar_ne_brace digit small),
    hexDigit?_digitChar digit small]

theorem readCodePoint_toDigits (n spare : Nat) (rest : List Char) :
    readCodePoint ((Nat.toDigits 16 n).length + spare) 0 (Nat.toDigits 16 n ++ rest) =
      readCodePoint spare n rest := by
  induction n using Nat.strongRecOn generalizing spare rest with
  | ind n ih =>
    rw [Nat.toDigits_eq_if (by decide)]
    split
    next small =>
      rw [List.length_singleton, Nat.add_comm, List.singleton_append,
        readCodePoint_digitChar small, Nat.zero_mul, Nat.zero_add]
    next large =>
      have last : n % 16 < 16 := Nat.mod_lt n (by decide)
      rw [List.length_append, List.length_singleton, Nat.add_assoc, List.append_assoc,
        ih (n / 16) (by omega), Nat.add_comm 1 spare, List.singleton_append,
        readCodePoint_digitChar last]
      congr 1
      omega

theorem digitsValue_append (base : Nat) (after : List Char) (value : Nat)
    (digits more : List Char) {read : Nat}
    (first : digitsValue base (more ++ after) value digits = .ok read) :
    digitsValue base after value (digits ++ more) = digitsValue base after read more := by
  induction digits generalizing value with
  | nil =>
    simp only [digitsValue, Except.ok.injEq] at first
    rw [List.nil_append, first]
  | cons c rest ih =>
    rw [List.cons_append]
    simp only [digitsValue] at first ⊢
    split
    next => exact ih value (by simpa only [if_pos ‹_›] using first)
    next separator =>
      rw [if_neg separator] at first
      cases found : hexDigit? c with
      | none => simp [found] at first
      | some digit =>
        simp only [found] at first ⊢
        split at first
        next fits => rw [if_pos fits]; exact ih _ first
        next => simp at first

theorem digitChar_ne_separator : ∀ digit < 10, Nat.digitChar digit ≠ '_' := by decide

theorem digitsValue_digitChar (after : List Char) (value : Nat) {digit : Nat}
    (small : digit < 10) :
    digitsValue 10 after value [Nat.digitChar digit] = .ok (value * 10 + digit) := by
  simp only [digitsValue, if_neg (digitChar_ne_separator digit small),
    hexDigit?_digitChar digit (Nat.lt_trans small (by decide)), if_pos small]

theorem digitsValue_toDigits (n : Nat) (after : List Char) :
    digitsValue 10 after 0 (Nat.toDigits 10 n) = .ok n := by
  induction n using Nat.strongRecOn generalizing after with
  | ind n ih =>
    rw [Nat.toDigits_eq_if (by decide)]
    split
    next small => rw [digitsValue_digitChar after 0 small, Nat.zero_mul, Nat.zero_add]
    next large =>
      have last : n % 10 < 10 := Nat.mod_lt n (by decide)
      rw [digitsValue_append 10 after 0 _ _ (ih (n / 10) (by omega) _),
        digitsValue_digitChar after _ last]
      congr 1
      omega

theorem readEscape_codePoint (quotation : Quotation) (c : Char) (rest : List Char) :
    readEscape quotation ('u' :: '\x7b' :: (Text.hexDigits c.toNat ++ '\x7d' :: rest)) =
      some (c, rest) := by
  have valid : c.toNat.isValidChar := c.valid
  have short : (Nat.toDigits 16 c.toNat).length ≤ 6 :=
    (Nat.length_toDigits_le_iff (by decide) (by decide)).mpr (by
      rcases valid with low | ⟨-, high⟩ <;> omega)
  obtain ⟨spare, length⟩ := Nat.exists_eq_add_of_le short
  have value : readCodePoint 6 0 (Text.hexDigits c.toNat ++ '\x7d' :: rest) =
      some (c.toNat, '\x7d' :: rest) := by
    rw [Text.hexDigits, length, readCodePoint_toDigits]
    cases spare <;> simp [readCodePoint]
  have first : (Text.hexDigits c.toNat ++ '\x7d' :: rest).head? ≠ some '\x7d' := by
    obtain ⟨digit, more, small, written⟩ := toDigits_eq_cons (by decide : 1 < 16) c.toNat
    simp [Text.hexDigits, written, digitChar_ne_brace digit small]
  rw [readEscape, if_neg first, value]
  simp only [valid, if_true, Char.ofNat_toNat]

/-- A character stands in a string as itself, unless it is read as something else. -/
theorem readQuoted_escaped (c : Char) (most : Nat) (rest : List Char) :
    readQuoted .text (most + 1) (escaped c ++ rest) =
      (readQuoted .text most rest).map fun read => (c :: read.1, read.2) := by
  rw [escaped, Text.escaped]
  split
  next same => subst same; rfl
  split
  next same => subst same; rfl
  split
  next same => subst same; rfl
  split
  next same => subst same; rfl
  split
  next same => subst same; rfl
  split
  next quote => rcases quote with rfl | rfl <;> rfl
  split
  next =>
    have escape := readEscape_codePoint .text c rest
    simp only [List.cons_append, List.append_assoc, List.nil_append, readQuoted, escape]
  next plain _ =>
    obtain ⟨notQuote, notBackslash⟩ := not_or.mp plain
    rw [List.singleton_append, readQuoted]
    · exact notQuote
    · exact notBackslash

theorem escaped_ne_nil (c : Char) : escaped c ≠ [] := by
  rw [escaped, Text.escaped]
  repeat' split
  all_goals simp

theorem readQuoted_flatMap (text rest : List Char) {most : Nat} (enough : text.length < most) :
    readQuoted .text most (text.flatMap escaped ++ '"' :: rest) = some (text, rest) := by
  induction text generalizing most with
  | nil =>
    obtain ⟨more, rfl⟩ : ∃ more, most = more + 1 := ⟨most - 1, by omega⟩
    rfl
  | cons c text ih =>
    obtain ⟨more, rfl⟩ : ∃ more, most = more + 1 := ⟨most - 1, by omega⟩
    rw [List.flatMap_cons, List.append_assoc, readQuoted_escaped,
      ih (Nat.lt_of_succ_lt_succ enough)]
    rfl

theorem length_le_flatMap_escaped (text : List Char) :
    text.length ≤ (text.flatMap escaped).length := by
  induction text with
  | nil => exact Nat.le_refl 0
  | cons c text ih =>
    have := List.length_pos_iff.mpr (escaped_ne_nil c)
    rw [List.flatMap_cons, List.length_append, List.length_cons]
    omega

theorem readString_quoted (text : String) (rest : List Char) :
    readString (quoted text ++ rest) = some (text, rest) := by
  have length := length_le_flatMap_escaped text.toList
  have enough : text.toList.length <
      (text.toList.flatMap escaped ++ '"' :: rest).length + 1 := by
    rw [List.length_append]
    omega
  rw [quoted, List.cons_append, List.cons_append, List.append_assoc, List.singleton_append,
    readString, readQuoted_flatMap text.toList rest enough, Option.map_some, String.ofList_toList]

theorem isIntegerPart_digitChar : ∀ digit < 10, isIntegerPart (Nat.digitChar digit) = true := by
  decide

theorem isIntegerPart_of_mem {n : Nat} : ∀ c ∈ Nat.toDigits 10 n, isIntegerPart c = true := by
  intro c member
  obtain ⟨digit, small, rfl⟩ := exists_of_mem_toDigits (by decide) member
  exact isIntegerPart_digitChar digit small

theorem takeWhile_isIntegerPart (n : Nat) (rest : List Char) :
    (Nat.toDigits 10 n ++ ')' :: rest).takeWhile isIntegerPart = Nat.toDigits 10 n := by
  rw [List.takeWhile_append_of_pos isIntegerPart_of_mem,
    List.takeWhile_cons_of_neg (by decide), List.append_nil]

theorem dropWhile_isIntegerPart (n : Nat) (rest : List Char) :
    (Nat.toDigits 10 n ++ ')' :: rest).dropWhile isIntegerPart = ')' :: rest := by
  rw [List.dropWhile_append_of_pos isIntegerPart_of_mem, List.dropWhile_cons_of_neg (by decide)]

theorem integerType_read?_close (rest : List Char) : IntegerType.read? (')' :: rest) = none := rfl

theorem digitChar_ne_marks : ∀ digit < 10,
    Nat.digitChar digit ≠ '+' ∧ Nat.digitChar digit ≠ '-' ∧ Nat.digitChar digit ≠ 'b' ∧
      Nat.digitChar digit ≠ 'o' ∧ Nat.digitChar digit ≠ 'x' := by
  decide

/-- A number before a bracket is a digit and either the bracket or another digit. -/
theorem exists_digits (n : Nat) (rest : List Char) :
    ∃ digit c more, digit < 10 ∧ Nat.toDigits 10 n ++ ')' :: rest =
      Nat.digitChar digit :: c :: more ∧ (c = ')' ∨ ∃ next < 10, c = Nat.digitChar next) := by
  obtain ⟨digit, more, small, written⟩ := toDigits_eq_cons (by decide : 1 < 10) n
  rw [written]
  cases more with
  | nil => exact ⟨digit, ')', rest, small, rfl, .inl rfl⟩
  | cons c others =>
    have member : c ∈ Nat.toDigits 10 n := by simp [written]
    exact ⟨digit, c, others ++ ')' :: rest, small, rfl,
      .inr (exists_of_mem_toDigits (by decide) member)⟩

theorem readBase_toDigits (n : Nat) (rest : List Char) :
    readBase (Nat.toDigits 10 n ++ ')' :: rest) = (10, Nat.toDigits 10 n ++ ')' :: rest) := by
  obtain ⟨digit, c, more, small, written, second⟩ := exists_digits n rest
  have mark : c ≠ 'b' ∧ c ≠ 'o' ∧ c ≠ 'x' := by
    rcases second with rfl | ⟨next, small, rfl⟩
    · decide
    · exact (digitChar_ne_marks next small).2.2
  obtain ⟨notBinary, notOctal, notHexadecimal⟩ := mark
  rw [written]
  simp [readBase, afterMark?, notBinary.symm, notOctal.symm, notHexadecimal.symm]

theorem holds_unsigned {n : Nat} (small : n ≤ Text.max64) :
    IntegerType.holds (n : Int) (.unsigned 64) = true := by
  simp only [Text.max64] at small
  simp only [IntegerType.holds, Nat.pow_eq, decide_eq_true_eq]
  omega

theorem readDigits_toDigits (n : Nat) (small : n ≤ Text.max64) (rest : List Char) :
    readDigits (.unsigned 64) false (Nat.toDigits 10 n ++ ')' :: rest) =
      .ok ((n : Int), ')' :: rest) := by
  obtain ⟨digit, more, lt, written⟩ := toDigits_eq_cons (by decide : 1 < 10) n
  have separator := digitChar_ne_separator digit lt
  have value := digitsValue_toDigits n (')' :: rest)
  rw [written] at value
  simp only [readDigits, readBase_toDigits, takeWhile_isIntegerPart, List.drop_left]
  simp only [written, List.isEmpty_cons, Bool.false_or, List.head?_cons, Option.some.injEq,
    separator, decide_false, Bool.false_eq_true, if_false, value, holds_unsigned small, if_true]

theorem readCount_toDigits (n : Nat) (small : n ≤ Text.max64) (rest : List Char) :
    readCount (Nat.toDigits 10 n ++ ')' :: rest) = some (n, ')' :: rest) := by
  obtain ⟨digit, c, more, lt, written, -⟩ := exists_digits n rest
  obtain ⟨notPlus, notMinus, notOctet, -⟩ := digitChar_ne_marks digit lt
  have magnitude : readMagnitude false (Nat.toDigits 10 n ++ ')' :: rest) =
      .ok ((n : Int), ')' :: rest) := by
    rw [readMagnitude, dropWhile_isIntegerPart, integerType_read?_close]
    exact readDigits_toDigits n small rest
  have integer : readInteger (Nat.toDigits 10 n ++ ')' :: rest) = .ok ((n : Int), ')' :: rest) := by
    rw [← magnitude, written, readInteger]
    · exact fun rest same => notPlus (List.head_eq_of_cons_eq same)
    · exact fun rest same => notMinus (List.head_eq_of_cons_eq same)
    · exact fun rest same => notOctet (List.head_eq_of_cons_eq same)
  rw [readCount, integer]
  simp [written, notMinus, holds_unsigned small]

end WordTally.Snapshot
