import WordTally.Proofs.Pipeline.Intake
import WordTally.Proofs.Tally.Counting
import WordTally.Proofs.Text.Segments
import WordTally.Proofs.Unicode.LetterCase

set_option autoImplicit false

namespace WordTally

theorem RawRecord.words_of_decode {raw : RawRecord} {text : String}
    (decoded : raw.decode.map Record.text = .ok text) : raw.words = Text.words text := by
  unfold RawRecord.words
  cases read : raw.decode with
  | error mismatch =>
    rw [read] at decoded
    cases decoded
  | ok record =>
    rw [read] at decoded
    cases decoded
    rfl

namespace Text

open Unicode

variable {c : Char} {text run : List Char}

theorem isWord_of_mem_wordRuns (member : run ∈ wordRuns text) : IsWord run := by
  obtain ⟨front, parts, segments⟩ := exists_segments text
  rw [segments.wordRuns_eq] at member
  obtain ⟨part, inside, rfl⟩ := List.mem_map.mp member
  exact segments.words part inside

theorem subset_of_mem_wordRuns (member : run ∈ wordRuns text) : run ⊆ text := by
  obtain ⟨front, parts, segments⟩ := exists_segments text
  rw [segments.wordRuns_eq] at member
  obtain ⟨part, inside, rfl⟩ := List.mem_map.mp member
  intro c stands
  rw [segments.whole]
  refine List.mem_append_right front (List.mem_flatMap.mpr ⟨part, inside, ?_⟩)
  exact List.mem_append_left part.2 stands

/-- A word of a text is lower case, although the text around it is gone. -/
theorem lowercase_of_mem_wordsOf (member : run ∈ wordsOf text) : lowercase run = run :=
  lowercase_of_isLower fun _ stands =>
    isLower_of_mem_lowerAfter (subset_of_mem_wordRuns member stands)

theorem wordsOf_of_mem_wordsOf (member : run ∈ wordsOf text) : wordsOf run = [run] := by
  rw [wordsOf, lowercase_of_mem_wordsOf member]
  exact wordRuns_of_isWord (isWord_of_mem_wordRuns member)

theorem wordsOf_append (separates : isWordChar c = false) (seen : isCaseIgnorable c = false)
    (front rest : List Char) : wordsOf (front ++ c :: rest) = wordsOf front ++ wordsOf rest := by
  rw [wordsOf, lowercase_append separates seen, wordRuns_append_gap separates]
  rfl

theorem wordsOf_intercalate (separates : isWordChar c = false) (seen : isCaseIgnorable c = false)
    (texts : List (List Char)) : wordsOf ([c].intercalate texts) = texts.flatMap wordsOf := by
  induction texts with
  | nil => rfl
  | cons first rest ih =>
    cases rest with
    | nil => rw [List.intercalate_singleton, List.flatMap_singleton]
    | cons second others =>
      rw [List.intercalate_cons_cons, List.append_assoc, List.singleton_append,
        wordsOf_append separates seen, ih]
      rfl

theorem words_append (separates : isWordChar c = false) (seen : isCaseIgnorable c = false)
    (front rest : String) :
    words (front ++ String.singleton c ++ rest) = words front ++ words rest := by
  have parted : (front ++ String.singleton c ++ rest).toList =
      front.toList ++ c :: rest.toList := by
    simp
  rw [words, parted, wordsOf_append separates seen, List.map_append]
  rfl

/-- The words of a text are in normal form. Each of them is its own lower case and the only word of
itself, so the words that are joined again with single blanks between them are found again. -/
theorem words_settled (text : String) :
    (∀ token ∈ words text, lowercase token.toList = token.toList ∧ words token = [token]) ∧
      words (" ".intercalate (words text)) = words text := by
  have blank : isWordChar ' ' = false ∧ isCaseIgnorable ' ' = false := by decide +kernel
  refine ⟨fun token member => ?_, ?_⟩
  · obtain ⟨run, found, rfl⟩ := List.mem_map.mp member
    rw [words, String.toList_ofList, wordsOf_of_mem_wordsOf found]
    exact ⟨lowercase_of_mem_wordsOf found, rfl⟩
  · have joined : (" ".intercalate (words text)).toList =
        [' '].intercalate (wordsOf text.toList) := by
      have runs : (words text).map String.toList = wordsOf text.toList := by
        simp [words, Function.comp_def]
      rw [String.toList_intercalate, runs]
      rfl
    have alone : (wordsOf text.toList).flatMap wordsOf = wordsOf text.toList := by
      rw [List.flatMap_congr fun run found => wordsOf_of_mem_wordsOf found]
      exact List.flatMap_singleton' _
    rw [words, joined, wordsOf_intercalate blank.1 blank.2, alone]
    rfl

/-- A final sigma stays final in the word that was cut out, and the two characters that a dotted
capital becomes stay two. -/
theorem words_settled_sigma :
    words "ΜΈΓΑΣ, İO" = ["μέγας", "i\u0307o"] ∧ words "μέγας" = ["μέγας"] ∧
      words "μέγας i\u0307o" = ["μέγας", "i\u0307o"] := by
  have found : words "ΜΈΓΑΣ, İO" = ["μέγας", "i\u0307o"] := by decide +kernel
  obtain ⟨each, joined⟩ := words_settled "ΜΈΓΑΣ, İO"
  rw [found] at each joined
  exact ⟨found, (each "μέγας" List.mem_cons_self).2, joined⟩

/-- Counting a record whose text holds a separator that is not looked through is counting the text
before it and the text behind it as two records. -/
theorem words_append_separator (separates : isWordChar c = false)
    (seen : isCaseIgnorable c = false) (front rest : String) :
    words (front ++ String.singleton c ++ rest) = words front ++ words rest ∧
      ∀ whole first second : RawRecord,
        whole.decode.map Record.text = .ok (front ++ String.singleton c ++ rest) →
        first.decode.map Record.text = .ok front → second.decode.map Record.text = .ok rest →
        whole.words = first.words ++ second.words ∧
          ∀ tally : Tally,
            let counted := tally.countAll first.words
            let continued := counted.2.countAll second.words
            tally.countAll whole.words = (counted.1 ++ continued.1, continued.2) := by
  have apart := words_append separates seen front rest
  refine ⟨apart, fun whole first second wholeText firstText secondText => ?_⟩
  have records : whole.words = first.words ++ second.words := by
    rw [RawRecord.words_of_decode wholeText, RawRecord.words_of_decode firstText,
      RawRecord.words_of_decode secondText, apart]
  refine ⟨records, fun tally => ?_⟩
  rw [records]
  exact Tally.countAll_append tally first.words second.words

theorem comma_separates :
    isWordChar ',' = false ∧ isCaseIgnorable ',' = false ∧
      words "ΟΔΟΣ,ΟΔΟΣ" = ["οδος"] ++ ["οδος"] ∧
      (Tally.empty.countAll (RawRecord.ofLine 0 0 "ΟΔΟΣ,ΟΔΟΣ").words).1 =
        [⟨"οδος", 1⟩, ⟨"οδος", 2⟩] := by
  have separates : isWordChar ',' = false := by decide +kernel
  have seen : isCaseIgnorable ',' = false := by decide +kernel
  obtain ⟨parted, counted⟩ := words_append_separator separates seen "ΟΔΟΣ" "ΟΔΟΣ"
  have one : words "ΟΔΟΣ" = ["οδος"] := by decide +kernel
  obtain ⟨_, updates⟩ := counted (.ofLine 0 0 "ΟΔΟΣ,ΟΔΟΣ") (.ofLine 0 0 "ΟΔΟΣ")
    (.ofLine 0 1 "ΟΔΟΣ") rfl rfl rfl
  rw [one] at parted
  refine ⟨separates, seen, parted, ?_⟩
  rw [updates Tally.empty]
  decide +kernel

/-- A full stop separates words as well, but it is looked through: the sigma before it is not at the
end. -/
example : words "ΟΔΟΣ.ΟΔΟΣ" = ["οδοσ", "οδος"] := by decide +kernel

end Text

end WordTally
