import WordTally.Proofs.Snapshot.Lexemes

set_option autoImplicit false

namespace WordTally.Snapshot

/-- A name that needs no mark before it, and whose first letter announces no string. -/
def IsPlainName (name : List Char) : Prop :=
  name.head?.any Unicode.isNameStart = true ∧ name.all Unicode.isNamePart = true ∧
    name.head? ≠ some 'b' ∧ name.head? ≠ some 'r'

instance (name : List Char) : Decidable (IsPlainName name) := inferInstanceAs (Decidable (_ ∧ _))

theorem readName_colon {name : List Char} (named : IsPlainName name) (rest : List Char) :
    readName (name ++ ':' :: rest) = some (String.ofList name, ':' :: rest) := by
  obtain ⟨starts, parts, plain⟩ := named
  have part : ∀ c ∈ name, Unicode.isNamePart c = true := List.all_eq_true.mp parts
  have markedPart : ∀ c ∈ name, isMarkedNamePart c = true := by
    intro c member
    rw [isMarkedNamePart, part c member, Bool.or_true]
  have taken : (name ++ ':' :: rest).takeWhile Unicode.isNamePart = name := by
    rw [List.takeWhile_append_of_pos part, List.takeWhile_cons_of_neg (by decide), List.append_nil]
  have marked : (name ++ ':' :: rest).takeWhile isMarkedNamePart = name := by
    rw [List.takeWhile_append_of_pos markedPart, List.takeWhile_cons_of_neg (by decide),
      List.append_nil]
  have first : (name ++ ':' :: rest).head?.any Unicode.isNameStart = true ∧
      beginsQuotation (name ++ ':' :: rest) = false ∧
      afterMark? "r#" (name ++ ':' :: rest) = none := by
    cases name with
    | nil => simp at starts
    | cons c others =>
      simp only [List.head?_cons, ne_eq, Option.some.injEq] at plain
      have notB : ('b' == c) = false := beq_false_of_ne (Ne.symm plain.1)
      have notR : ('r' == c) = false := beq_false_of_ne (Ne.symm plain.2)
      refine ⟨starts, ?_, ?_⟩
      · simp [beginsQuotation, beginsWith, List.isPrefixOf, notB, notR]
      · simp [afterMark?, List.isPrefixOf, notR]
  obtain ⟨start, quotation, unmarked⟩ := first
  rw [readName, start, quotation, unmarked, taken, marked]
  simp

theorem afterColon?_colon {value : List Char} (settled : skipBlanks (' ' :: value) = some value) :
    afterColon? (':' :: ' ' :: value) = some value := by
  simp [afterColon?, skipBlanks_cons (c := ':') _ rfl (by decide), settled]

theorem skipBlanks_quoted (text : String) (rest : List Char) :
    skipBlanks (quoted text ++ rest) = some (quoted text ++ rest) :=
  skipBlanks_cons _ rfl (by decide)

theorem digitChar_visible : ∀ digit < 10,
    isBlank (Nat.digitChar digit) = false ∧ Nat.digitChar digit ≠ '/' := by
  decide

theorem readComma_toDigits (n : Nat) (rest : List Char) :
    readComma (',' :: ' ' :: (Nat.toDigits 10 n ++ rest)) =
      some (true, Nat.toDigits 10 n ++ rest) := by
  obtain ⟨digit, more, small, written⟩ := toDigits_eq_cons (by decide : 1 < 10) n
  obtain ⟨visible, plain⟩ := digitChar_visible digit small
  rw [written]
  exact readComma_skipped (skipBlanks_append [' '] (by decide) visible plain)

theorem readPair_written (word : String) {count : Nat} (small : count ≤ Text.max64)
    (rest : List Char) :
    readPair ('(' :: (quoted word ++ ',' :: ' ' :: (Nat.toDigits 10 count ++ ')' :: rest))) =
      some ((word, count), rest) := by
  have opened : ∀ text, afterChar? '(' ('(' :: text) = some text := fun text => rfl
  have closed : ∀ text, afterChar? ')' (')' :: text) = some text := fun text => rfl
  simp only [readPair, opened, skipBlanks_quoted, readString_quoted, readComma_toDigits,
    readCount_toDigits count small, readComma_close, closed, Option.bind_eq_bind, Option.bind_some]
  simp

theorem writeCount_append (count : String × Nat) (rest : List Char) :
    writeCount count ++ rest =
      "        ".toList ++ '(' :: (quoted count.1 ++
        ',' :: ' ' :: (Nat.toDigits 10 count.2 ++ ')' :: ',' :: '\n' :: rest)) := by
  unfold writeCount
  simp

def countLines (counts : List (String × Nat)) (rest : List Char) : List Char :=
  counts.flatMap writeCount ++ ("    ".toList ++ ']' :: rest)

theorem countLines_cons (count : String × Nat) (counts : List (String × Nat)) (rest : List Char) :
    countLines (count :: counts) rest = writeCount count ++ countLines counts rest := by
  rw [countLines, List.flatMap_cons, List.append_assoc, countLines]

/-- What an indented line shows is the same before and after the line begins. -/
theorem exists_skipBlanks_line (gap : List Char) {c : Char} (rest : List Char)
    (blank : gap.all isBlank = true) (visible : isBlank c = false) (plain : c ≠ '/') :
    ∃ shown, skipBlanks (gap ++ c :: rest) = some shown ∧
      skipBlanks ('\n' :: (gap ++ c :: rest)) = some shown ∧ skipBlanks shown = some shown := by
  have newline : ('\n' :: gap).all isBlank = true := by simp [blank, isBlank]
  exact ⟨c :: rest, skipBlanks_append _ blank visible plain,
    skipBlanks_append _ newline visible plain, skipBlanks_cons rest visible plain⟩

theorem exists_skipBlanks_countLines (counts : List (String × Nat)) (rest : List Char) :
    ∃ shown, skipBlanks (countLines counts rest) = some shown ∧
      skipBlanks ('\n' :: countLines counts rest) = some shown ∧ skipBlanks shown = some shown := by
  cases counts with
  | nil => exact exists_skipBlanks_line _ rest (by decide) rfl (by decide)
  | cons count counts =>
    rw [countLines_cons, writeCount_append]
    exact exists_skipBlanks_line _ _ (by decide) rfl (by decide)

theorem readPairs_countLines {counts : List (String × Nat)}
    (small : ∀ count ∈ counts, count.2 ≤ Text.max64) (rest : List Char) {most : Nat}
    (enough : counts.length < most) {text : List Char}
    (same : skipBlanks text = skipBlanks (countLines counts rest)) :
    readPairs most true text = some (counts, rest) := by
  induction counts generalizing most text with
  | nil =>
    obtain ⟨more, rfl⟩ : ∃ more, most = more + 1 := ⟨most - 1, by omega⟩
    have skipped : skipBlanks text = some (']' :: rest) :=
      same.trans (skipBlanks_append "    ".toList (by decide) rfl (by decide))
    simp [readPairs, skipped, afterChar?]
  | cons count counts ih =>
    obtain ⟨more, rfl⟩ : ∃ more, most = more + 1 := ⟨most - 1, by omega⟩
    obtain ⟨shown, lines, line, again⟩ := exists_skipBlanks_countLines counts rest
    have skipped : skipBlanks text = some ('(' :: (quoted count.1 ++ ',' :: ' ' ::
        (Nat.toDigits 10 count.2 ++ ')' :: ',' :: '\n' :: countLines counts rest))) := by
      rw [same, countLines_cons, writeCount_append]
      exact skipBlanks_append "        ".toList (by decide) rfl (by decide)
    have pair := readPair_written count.1 (small count List.mem_cons_self)
      (',' :: '\n' :: countLines counts rest)
    have others := ih (fun other member => small other (List.mem_cons_of_mem _ member))
      (Nat.lt_of_succ_lt_succ enough) (again.trans lines.symm)
    have open' : ∀ text, afterChar? ']' ('(' :: text) = none := fun text => rfl
    simp [readPairs, skipped, open', pair, readComma_skipped line, others]

theorem length_le_countLines (counts : List (String × Nat)) (rest : List Char) :
    counts.length ≤ (countLines counts rest).length := by
  induction counts with
  | nil => exact Nat.zero_le _
  | cons count counts ih =>
    rw [countLines_cons, writeCount_append]
    simp only [List.length_append, List.length_cons] at ih ⊢
    omega

theorem readCounts_writeCounts {counts : List (String × Nat)}
    (small : ∀ count ∈ counts, count.2 ≤ Text.max64) (rest : List Char) :
    readCounts (writeCounts counts ++ rest) = some (counts, rest) := by
  cases counts with
  | nil =>
    have skipped : skipBlanks (']' :: rest) = some (']' :: rest) :=
      skipBlanks_cons rest rfl (by decide)
    simp [writeCounts, readCounts, readPairs, afterChar?, skipped]
  | cons count counts =>
    obtain ⟨shown, lines, line, -⟩ := exists_skipBlanks_countLines (count :: counts) rest
    have written : writeCounts (count :: counts) ++ rest =
        '[' :: '\n' :: countLines (count :: counts) rest := by
      simp [writeCounts, countLines]
    have length := length_le_countLines (count :: counts) rest
    have opened : ∀ text, afterChar? '[' ('[' :: text) = some text := fun text => rfl
    have enough : (count :: counts).length <
        ('\n' :: countLines (count :: counts) rest).length + 1 := by
      rw [List.length_cons (a := '\n')]
      omega
    have pairs := readPairs_countLines small rest enough (line.trans lines.symm)
    simp only [written, readCounts, opened, Option.bind_eq_bind, Option.bind_some, pairs]

def writeMember (name : String) (value rest : List Char) : List Char :=
  name.toList ++ ':' :: ' ' :: (value ++ ',' :: '\n' :: rest)

theorem isNameStart_of_isBlank {c : Char} (blank : isBlank c = true) :
    Unicode.isNameStart c = false := by
  have blanks : ([' ', '\t', '\n', '\r', '\x0b', '\x0c', '\u0085', '\u200e', '\u200f', '\u2028',
      '\u2029'].all fun c => !Unicode.isNameStart c) = true := by decide +kernel
  have other := List.all_eq_true.mp blanks c (List.contains_iff_mem.mp blank)
  simpa using other

theorem skipBlanks_writeMember (gap : List Char) {name : String} (value rest : List Char)
    (blank : gap.all isBlank = true) (named : IsPlainName name.toList) :
    skipBlanks (gap ++ writeMember name value rest) = some (writeMember name value rest) := by
  obtain ⟨starts, -⟩ := named
  rw [writeMember]
  cases letters : name.toList with
  | nil => simp [letters] at starts
  | cons first others =>
    rw [letters] at starts
    have letter : Unicode.isNameStart first = true := starts
    have visible : isBlank first = false := by
      cases shown : isBlank first with
      | false => rfl
      | true => exact absurd letter (by simp [isNameStart_of_isBlank shown])
    have plain : first ≠ '/' := by
      rintro rfl
      exact absurd letter (by decide)
    exact skipBlanks_append _ blank visible plain

theorem readMembers_writeMember {extensions : Extensions} {members next : Members} {name : String}
    {value rest text shown : List Char} (most : Nat) (named : IsPlainName name.toList)
    (skipped : skipBlanks text = some (writeMember name value rest))
    (settled : ∀ more, skipBlanks (' ' :: (value ++ more)) = some (value ++ more))
    (read : ∀ more, readMember extensions members name (value ++ more) = some (next, more))
    (following : skipBlanks ('\n' :: rest) = some shown) :
    readMembers extensions (most + 1) true members text =
      readMembers extensions most true next shown := by
  have another : afterChar? ')' (writeMember name value rest) = none := by
    obtain ⟨starts, -⟩ := named
    rw [writeMember]
    cases letters : name.toList with
    | nil => simp [letters] at starts
    | cons first others =>
      rw [letters] at starts
      have letter : Unicode.isNameStart first = true := starts
      have bracket : first ≠ ')' := by
        rintro rfl
        exact absurd letter (by decide)
      simp [afterChar?, bracket]
  have colon : afterColon? (':' :: ' ' :: (value ++ ',' :: '\n' :: rest)) =
      some (value ++ ',' :: '\n' :: rest) := afterColon?_colon (settled _)
  simp only [readMembers, skipped, another, Option.bind_eq_bind, Option.bind_some]
  simp [writeMember, readName_colon named, colon, read, readComma_skipped following]

def countsText (snapshot : Snapshot) : List Char :=
  writeMember "counts" (writeCounts snapshot.counts) [')']

def timeText (snapshot : Snapshot) : List Char :=
  writeMember "saved_utc" (quoted snapshot.savedUtc) ("    ".toList ++ countsText snapshot)

def membersText (snapshot : Snapshot) : List Char :=
  writeMember "application_id" (quoted snapshot.applicationId) ("    ".toList ++ timeText snapshot)

theorem write_eq (snapshot : Snapshot) :
    snapshot.write = '(' :: '\n' :: ("    ".toList ++ membersText snapshot) := by
  unfold write
  simp [membersText, timeText, countsText, writeMember]

theorem skipBlanks_space_quoted (text : String) (more : List Char) :
    skipBlanks (' ' :: (quoted text ++ more)) = some (quoted text ++ more) :=
  skipBlanks_append [' '] (by decide) rfl (by decide)

theorem skipBlanks_space_writeCounts (counts : List (String × Nat)) (more : List Char) :
    skipBlanks (' ' :: (writeCounts counts ++ more)) = some (writeCounts counts ++ more) := by
  cases counts <;> exact skipBlanks_append [' '] (by decide) rfl (by decide)

theorem readMembers_membersText (extensions : Extensions) (snapshot : Snapshot)
    (small : ∀ count ∈ snapshot.counts, count.2 ≤ Text.max64) (most : Nat) :
    readMembers extensions (most + 4) true .none ('\n' :: ("    ".toList ++ membersText snapshot)) =
      some (⟨some snapshot.applicationId, some snapshot.savedUtc, some snapshot.counts⟩, []) := by
  have line : ∀ (name : String) (value rest : List Char), IsPlainName name.toList →
      skipBlanks ('\n' :: ("    ".toList ++ writeMember name value rest)) =
        some (writeMember name value rest) :=
    fun name value rest named =>
      skipBlanks_writeMember ('\n' :: "    ".toList) value rest (by decide) named
  have shown : ∀ (name : String) (value rest : List Char), IsPlainName name.toList →
      skipBlanks (writeMember name value rest) = some (writeMember name value rest) :=
    fun name value rest named => skipBlanks_writeMember [] value rest rfl named
  have close : skipBlanks ['\n', ')'] = some [')'] :=
    skipBlanks_append ['\n'] (by decide) rfl (by decide)
  have applicationId : readMembers extensions (most + 4) true .none
      ('\n' :: ("    ".toList ++ membersText snapshot)) =
        readMembers extensions (most + 3) true ⟨some snapshot.applicationId, none, none⟩
          (timeText snapshot) :=
    readMembers_writeMember (most + 3) (by decide) (line "application_id" _ _ (by decide))
      (skipBlanks_space_quoted _)
      (fun more => by simp [readMember, Members.none, readString_quoted])
      (line "saved_utc" _ _ (by decide))
  have savedUtc : readMembers extensions (most + 3) true ⟨some snapshot.applicationId, none, none⟩
      (timeText snapshot) =
        readMembers extensions (most + 2) true
          ⟨some snapshot.applicationId, some snapshot.savedUtc, none⟩ (countsText snapshot) :=
    readMembers_writeMember (most + 2) (by decide) (shown "saved_utc" _ _ (by decide))
      (skipBlanks_space_quoted _) (fun more => by simp [readMember, readString_quoted])
      (line "counts" _ _ (by decide))
  have counts : readMembers extensions (most + 2) true
      ⟨some snapshot.applicationId, some snapshot.savedUtc, none⟩ (countsText snapshot) =
        readMembers extensions (most + 1) true
          ⟨some snapshot.applicationId, some snapshot.savedUtc, some snapshot.counts⟩ [')'] :=
    readMembers_writeMember (most + 1) (by decide) (shown "counts" _ _ (by decide))
      (skipBlanks_space_writeCounts _)
      (fun more => by simp [readMember, readCounts_writeCounts small]) close
  rw [applicationId, savedUtc, counts]
  simp [readMembers, skipBlanks_cons (c := ')') [] rfl (by decide), afterChar?]

theorem read?_write {snapshot : Snapshot}
    (small : ∀ count ∈ snapshot.counts, count.2 ≤ Text.max64) :
    read? snapshot.write = some snapshot := by
  have opened : ∀ rest, skipBlanks ('(' :: rest) = some ('(' :: rest) :=
    fun rest => skipBlanks_cons rest rfl (by decide)
  have head : ∀ most extensions rest,
      readHead (most + 1) extensions ('(' :: rest) = some (extensions, '(' :: rest) :=
    fun most extensions rest => rfl
  have unnamed : ∀ rest, afterStructName? ⟨false, false⟩ ('(' :: rest) = some ('(' :: rest) := by
    intro rest
    have bracket : continuesName ('(' :: rest) = false :=
      (by decide : Unicode.isNamePart '(' = false)
    simp [afterStructName?, bracket]
  have bracket : ∀ rest, afterChar? '(' ('(' :: rest) = some rest := fun rest => rfl
  have long : 3 ≤ ('\n' :: ("    ".toList ++ membersText snapshot)).length := by
    have indent : "    ".toList.length = 4 := rfl
    simp only [List.length_cons, List.length_append, indent]
    omega
  obtain ⟨spare, enough⟩ := Nat.exists_eq_add_of_le' long
  rw [write_eq]
  simp only [read?, opened, head, unnamed, bracket, enough, Option.bind_eq_bind, Option.bind_some]
  rw [readMembers_membersText ⟨false, false⟩ snapshot small spare]
  simp [Members.complete?]

/-- A snapshot is read back from its text. -/
theorem ofText?_text {snapshot : Snapshot}
    (small : ∀ count ∈ snapshot.counts, count.2 ≤ Text.max64) :
    ofText? snapshot.text = some snapshot := by
  rw [ofText?, text, String.toList_ofList, read?_write small]

end WordTally.Snapshot
