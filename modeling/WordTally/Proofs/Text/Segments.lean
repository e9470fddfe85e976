import WordTally.Text.Words
import Mathlib.Tactic.Common

set_option autoImplicit false

namespace WordTally.Text

open Unicode

/-- Characters that separate words, if there are any. -/
def IsGap (text : List Char) : Prop := ∀ c ∈ text, isWordChar c = false

/-- Word characters, and at least one. -/
def IsWord (text : List Char) : Prop := text ≠ [] ∧ ∀ c ∈ text, isWordChar c = true

/-- No word reaches across a separating character. -/
theorem wordRuns_append_gap {c : Char} (separates : isWordChar c = false)
    (before after : List Char) :
    wordRuns (before ++ c :: after) = wordRuns before ++ wordRuns after := by
  rw [wordRuns, List.splitOnP_append_cons before after (by simp [separates]), List.filter_append]
  rfl

theorem wordRuns_gap_append {gap : List Char} (isGap : IsGap gap) (text : List Char) :
    wordRuns (gap ++ text) = wordRuns text := by
  induction gap with
  | nil => rfl
  | cons c rest ih =>
    have tail : IsGap rest := fun d member => isGap d (List.mem_cons_of_mem c member)
    rw [List.cons_append, ← ih tail]
    exact wordRuns_append_gap (isGap c List.mem_cons_self) [] (rest ++ text)

theorem wordRuns_of_isGap {gap : List Char} (isGap : IsGap gap) : wordRuns gap = [] := by
  simpa using wordRuns_gap_append isGap []

theorem wordRuns_of_isWord {word : List Char} (isWord : IsWord word) : wordRuns word = [word] := by
  have whole : word.splitOnP (fun c => !isWordChar c) = [word] :=
    List.splitOnP_eq_singleton fun c member => by simp [isWord.2 c member]
  simp [wordRuns, whole, isWord.1]

theorem wordRuns_word_append {word gap : List Char} (isWord : IsWord word) (isGap : IsGap gap)
    {text : List Char} (apart : gap = [] → text = []) :
    wordRuns (word ++ (gap ++ text)) = word :: wordRuns text := by
  cases gap with
  | nil =>
    rw [apart rfl, List.append_nil, List.append_nil, wordRuns_of_isWord isWord, wordRuns_nil]
  | cons c rest =>
    have tail : IsGap rest := fun d member => isGap d (List.mem_cons_of_mem c member)
    rw [List.cons_append, wordRuns_append_gap (isGap c List.mem_cons_self),
      wordRuns_of_isWord isWord, wordRuns_gap_append tail, List.singleton_append]

/-- A text as a first gap and then `parts`, each of them a word with the gap behind it. Only the
first gap and the last one may be empty. -/
structure Segments (text front : List Char) (parts : List (List Char × List Char)) : Prop where
  whole : text = front ++ parts.flatMap fun part => part.1 ++ part.2
  front : IsGap front
  words : ∀ part ∈ parts, IsWord part.1
  gaps : ∀ part ∈ parts, IsGap part.2
  apart : ∀ part ∈ parts.dropLast, part.2 ≠ []

theorem forall_dropLast_cons {α : Type} {claim : α → Prop} {head : α} {rest : List α} :
    (∀ item ∈ (head :: rest).dropLast, claim item) ↔
      (rest = [] ∨ claim head) ∧ ∀ item ∈ rest.dropLast, claim item := by
  cases rest <;> simp

namespace Segments

variable {text front word gap : List Char} {parts : List (List Char × List Char)} {c : Char}

theorem tail (segments : Segments text front ((word, gap) :: parts)) :
    Segments (gap ++ parts.flatMap fun part => part.1 ++ part.2) gap parts where
  whole := rfl
  front := segments.gaps _ List.mem_cons_self
  words := (List.forall_mem_cons.mp segments.words).2
  gaps := (List.forall_mem_cons.mp segments.gaps).2
  apart := (forall_dropLast_cons.mp segments.apart).2

/-- Segments tell the words of a text. -/
theorem wordRuns_eq (segments : Segments text front parts) :
    wordRuns text = parts.map Prod.fst := by
  induction parts generalizing text front with
  | nil =>
    rw [segments.whole, List.flatMap_nil, List.append_nil]
    exact wordRuns_of_isGap segments.front
  | cons part rest ih =>
    obtain ⟨word, gap⟩ := part
    have isWord := segments.words _ List.mem_cons_self
    have isGap := segments.gaps _ List.mem_cons_self
    have apart : gap = [] → rest.flatMap (fun part => part.1 ++ part.2) = [] := by
      intro empty
      have last := (forall_dropLast_cons.mp segments.apart).1.resolve_right fun next => next empty
      rw [last, List.flatMap_nil]
    have after := ih segments.tail
    rw [wordRuns_gap_append isGap] at after
    rw [segments.whole, wordRuns_gap_append segments.front, List.flatMap_cons, List.append_assoc,
      wordRuns_word_append isWord isGap apart, after, List.map_cons]

theorem cons_gap (segments : Segments text front parts) (separates : isWordChar c = false) :
    Segments (c :: text) (c :: front) parts :=
  { segments with
    whole := by rw [segments.whole, List.cons_append]
    front := List.forall_mem_cons.mpr ⟨separates, segments.front⟩ }

/-- A word character joins the word right behind it. -/
theorem cons_joined (segments : Segments text [] ((word, gap) :: parts))
    (joins : isWordChar c = true) : Segments (c :: text) [] ((c :: word, gap) :: parts) := by
  obtain ⟨first, others⟩ := List.forall_mem_cons.mp segments.words
  refine ⟨by rw [segments.whole]; rfl, segments.front, ?_, ?_, ?_⟩
  · have joined : IsWord (c :: word) :=
      ⟨List.cons_ne_nil c word, List.forall_mem_cons.mpr ⟨joins, first.2⟩⟩
    exact List.forall_mem_cons.mpr ⟨joined, others⟩
  · exact List.forall_mem_cons.mpr (List.forall_mem_cons.mp segments.gaps)
  · exact forall_dropLast_cons.mpr (forall_dropLast_cons.mp segments.apart)

theorem cons_alone (segments : Segments text front parts) (joins : isWordChar c = true)
    (alone : parts = [] ∨ front ≠ []) : Segments (c :: text) [] (([c], front) :: parts) := by
  have single : IsWord [c] :=
    ⟨List.cons_ne_nil c [], fun d inside => List.mem_singleton.mp inside ▸ joins⟩
  exact
    { whole := by rw [segments.whole]; rfl
      front := nofun
      words := List.forall_mem_cons.mpr ⟨single, segments.words⟩
      gaps := List.forall_mem_cons.mpr ⟨segments.front, segments.gaps⟩
      apart := forall_dropLast_cons.mpr ⟨alone, segments.apart⟩ }

end Segments

theorem exists_segments (text : List Char) : ∃ front parts, Segments text front parts := by
  induction text with
  | nil => exact ⟨[], [], rfl, nofun, nofun, nofun, nofun⟩
  | cons c rest ih =>
    obtain ⟨front, parts, segments⟩ := ih
    cases joins : isWordChar c with
    | false => exact ⟨c :: front, parts, segments.cons_gap joins⟩
    | true =>
      -- The character joins a word only when that word comes right behind it.
      cases front with
      | cons d gap => exact ⟨[], _, segments.cons_alone joins (.inr (List.cons_ne_nil d gap))⟩
      | nil =>
        cases parts with
        | nil => exact ⟨[], _, segments.cons_alone joins (.inl rfl)⟩
        | cons part others => exact ⟨[], _, segments.cons_joined joins⟩

/-- The words of a text are `tokens` exactly when the lower case of the whole text can be written
as these tokens, none of them empty and all of word characters, with gaps before, between and after
them that hold no word character and that are not empty between two tokens. -/
theorem words_eq_iff_segments (text : String) (tokens : List String) :
    words text = tokens ↔ ∃ front parts, Segments (lowercase text.toList) front parts ∧
      tokens = parts.map fun part => String.ofList part.1 := by
  constructor
  · rintro rfl
    obtain ⟨front, parts, segments⟩ := exists_segments (lowercase text.toList)
    refine ⟨front, parts, segments, ?_⟩
    rw [words, wordsOf, segments.wordRuns_eq, List.map_map]
    rfl
  · rintro ⟨front, parts, segments, rfl⟩
    rw [words, wordsOf, segments.wordRuns_eq, List.map_map]
    rfl

/-- The capital sigma at the end of the second word becomes a final one, and the gaps at both ends
are not empty. -/
example : words "— Ὀδυσσεύς, ΜΕΓΑΣ!" = ["ὀδυσσεύς", "μεγας"] := by decide +kernel

end WordTally.Text
