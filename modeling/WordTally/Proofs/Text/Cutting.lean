import Mathlib.Data.List.Infix
import Mathlib.Data.List.TakeWhile
import WordTally.Text.Split
import WordTally.Unicode.Blank

set_option autoImplicit false

namespace WordTally

namespace Text

variable {c separator : Char} {text front rest piece mark : List Char}

theorem of_mem_splitOnP {ends : Char → Bool} (member : piece ∈ text.splitOnP ends)
    (stands : c ∈ piece) : ends c = false := by
  induction text generalizing piece with
  | nil =>
    rw [List.splitOnP_nil, List.mem_singleton] at member
    subst member
    cases stands
  | cons d text ih =>
    obtain ⟨first, others, parts⟩ := List.exists_cons_of_ne_nil (List.splitOnP_ne_nil ends text)
    rw [parts] at ih
    rw [List.splitOnP_cons_eq_if_modifyHead, parts] at member
    split at member
    · rcases List.mem_cons.mp member with rfl | later
      · cases stands
      · exact ih later stands
    · rename_i within
      rw [List.modifyHead_cons] at member
      rcases List.mem_cons.mp member with rfl | later
      · rcases List.mem_cons.mp stands with rfl | behind
        · simpa using within
        · exact ih List.mem_cons_self behind
      · exact ih (List.mem_cons_of_mem _ later) stands

theorem not_mem_of_mem_pieces (member : piece ∈ pieces separator text) : separator ∉ piece :=
  fun stands => by simpa using of_mem_splitOnP member stands

theorem pieces_intercalate {parts : List (List Char)} (some_part : parts ≠ [])
    (whole : ∀ part ∈ parts, separator ∉ part) :
    pieces separator ([separator].intercalate parts) = parts :=
  List.splitOn_intercalate separator whole some_part

theorem cutAtLast?_eq_some_iff :
    cutAtLast? separator text = some (front, rest) ↔
      text = front ++ separator :: rest ∧ separator ∉ rest := by
  unfold cutAtLast?
  constructor
  · intro found
    split at found
    · rename_i after last before parts
      cases found
      have whole := cutAt_append (· == separator) text.reverse
      rw [parts] at whole
      have behind : ∀ c ∈ after, c ≠ separator := by
        intro c stands
        have run : after = text.reverse.takeWhile fun c => !(c == separator) :=
          (congrArg Prod.fst parts).symm
        rw [run] at stands
        simpa using List.mem_takeWhile_imp stands
      have first : last = separator := by
        have kept : text.reverse.dropWhile (fun c => !(c == separator)) = last :: before :=
          congrArg Prod.snd parts
        simpa [kept] using List.head?_dropWhile_not (fun c => !(c == separator)) text.reverse
      subst first
      refine ⟨?_, fun stands => behind _ (List.mem_reverse.mp stands) rfl⟩
      rw [← List.reverse_inj, ← whole]
      simp
    · cases found
  · rintro ⟨rfl, absent⟩
    have passed : ∀ c ∈ rest.reverse, (!(c == separator)) = true := by
      intro c stands
      rw [List.mem_reverse] at stands
      simp only [Bool.not_eq_true', beq_eq_false_iff_ne]
      rintro rfl
      exact absent stands
    have parts : cutAt (· == separator) (front ++ separator :: rest).reverse =
        (rest.reverse, separator :: front.reverse) := by
      rw [cutAt, List.reverse_append, List.reverse_cons, List.append_assoc,
        List.takeWhile_append_of_pos passed, List.dropWhile_append_of_pos passed]
      simp
    rw [parts]
    simp

theorem afterMark?_eq_none_iff (some_mark : mark ≠ []) :
    afterMark? mark text = none ↔ ¬ mark <:+: text := by
  induction text with
  | nil => simp [afterMark?, some_mark]
  | cons c text ih =>
    rw [afterMark?, List.infix_cons_iff, ← List.isPrefixOf_iff_prefix]
    split
    · rename_i begins
      simp [begins]
    · rename_i elsewhere
      rw [ih]
      simp [elsewhere]

theorem eq_of_afterMark? (found : afterMark? mark text = some rest) :
    ∃ front, text = front ++ mark ++ rest ∧
      ∀ other later, text = other ++ mark ++ later → front.length ≤ other.length := by
  induction text with
  | nil =>
    rw [afterMark?] at found
    split at found
    · rename_i empty
      cases found
      exact ⟨[], by simpa using empty, fun _ _ _ => Nat.zero_le _⟩
    · cases found
  | cons c text ih =>
    rw [afterMark?] at found
    split at found
    · rename_i begins
      cases found
      refine ⟨[], ?_, fun _ _ _ => Nat.zero_le _⟩
      exact (List.prefix_iff_eq_append.mp (List.isPrefixOf_iff_prefix.mp begins)).symm
    · rename_i elsewhere
      obtain ⟨front, whole, first⟩ := ih found
      refine ⟨c :: front, by rw [whole]; rfl, fun other later same => ?_⟩
      cases other with
      | nil =>
        have begins : mark <+: c :: text := ⟨later, same.symm⟩
        exact absurd (List.isPrefixOf_iff_prefix.mpr begins) elsewhere
      | cons d other =>
        have behind : text = other ++ mark ++ later := (List.cons.inj same).2
        exact Nat.succ_le_succ (first other later behind)

end Text

namespace Unicode

variable {text : List Char} {word : String}

def StartsBare (text : List Char) : Prop := ∀ c ∈ text.head?, isBlank c = false

def EndsBare (text : List Char) : Prop := ∀ c ∈ text.getLast?, isBlank c = false

theorem dropWhile_isBlank_eq_self_iff : text.dropWhile isBlank = text ↔ StartsBare text := by
  cases text with
  | nil => simp [StartsBare]
  | cons c rest => simp [StartsBare, List.dropWhile_eq_self_iff]

theorem startsBare_dropWhile (text : List Char) : StartsBare (text.dropWhile isBlank) := by
  intro c first
  have visible := List.head?_dropWhile_not isBlank text
  rw [Option.mem_def.mp first] at visible
  exact visible

theorem startsBare_reverse_iff : StartsBare text.reverse ↔ EndsBare text := by
  simp [StartsBare, EndsBare]

theorem startsBare_of_prefix {front : List Char} (bare : StartsBare text)
    (begins : front <+: text) : StartsBare front := by
  intro c first
  obtain ⟨rest, rfl⟩ := begins
  refine bare c ?_
  rw [Option.mem_def] at first ⊢
  rw [List.head?_append, first, Option.some_or]

theorem endsBare_of_suffix {rest : List Char} (bare : EndsBare text) (ends : rest <:+ text) :
    EndsBare rest := by
  rw [← startsBare_reverse_iff] at bare ⊢
  exact startsBare_of_prefix bare (List.reverse_prefix.mpr ends)

theorem toList_trim (word : String) : (trim word).toList =
    ((word.toList.dropWhile isBlank).reverse.dropWhile isBlank).reverse := by
  rw [trim, String.toList_ofList]

theorem prefix_of_trim (word : String) : (trim word).toList <+: word.toList.dropWhile isBlank := by
  rw [toList_trim, ← List.reverse_suffix, List.reverse_reverse]
  exact List.dropWhile_suffix isBlank

theorem infix_of_trim (word : String) : (trim word).toList <:+: word.toList :=
  (prefix_of_trim word).isInfix.trans (List.dropWhile_suffix isBlank).isInfix

theorem endsBare_trim (word : String) : EndsBare (trim word).toList := by
  rw [toList_trim, ← startsBare_reverse_iff, List.reverse_reverse]
  exact startsBare_dropWhile _

theorem startsBare_trim (word : String) : StartsBare (trim word).toList :=
  startsBare_of_prefix (startsBare_dropWhile word.toList) (prefix_of_trim word)

theorem trim_eq_self_iff : trim word = word ↔ StartsBare word.toList ∧ EndsBare word.toList := by
  constructor
  · intro same
    rw [← same]
    exact ⟨startsBare_trim word, endsBare_trim word⟩
  · rintro ⟨starts, ends⟩
    rw [← startsBare_reverse_iff] at ends
    rw [trim, dropWhile_isBlank_eq_self_iff.mpr starts, dropWhile_isBlank_eq_self_iff.mpr ends,
      List.reverse_reverse, String.ofList_toList]

theorem isBlank_of_trim_eq_empty (empty : trim word = "") {c : Char} (stands : c ∈ word.toList) :
    isBlank c = true := by
  have nothing : (trim word).toList = [] := by rw [empty]; rfl
  rw [toList_trim, List.reverse_eq_nil_iff, List.dropWhile_eq_nil_iff] at nothing
  have bare := startsBare_dropWhile word.toList
  cases left : word.toList.dropWhile isBlank with
  | nil => exact List.dropWhile_eq_nil_iff.mp left c stands
  | cons first rest =>
    rw [left] at bare nothing
    have visible := bare first rfl
    rw [nothing first (by simp)] at visible
    cases visible

end Unicode

end WordTally
