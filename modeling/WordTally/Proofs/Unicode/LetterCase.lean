import WordTally.Unicode.Lowercase
import WordTally.Unicode.WordClass
import Mathlib.Data.List.Chain
import Mathlib.Tactic.Common

set_option autoImplicit false

namespace WordTally.Unicode

variable {c d : Char} {n : Nat} {text before after : List Char}

/-- An interval of a table that ascends is found, since none of those before it begins later. -/
theorem covers_of_mem {table : List Interval} {interval : Interval}
    (ascending : table.Pairwise fun before after => before.first ≤ after.first)
    (member : interval ∈ table) (above : interval.first ≤ n) (below : n ≤ interval.last) :
    covers table n = true := by
  induction table with
  | nil => cases member
  | cons head rest ih =>
    obtain ⟨first, tail⟩ := List.pairwise_cons.mp ascending
    simp only [covers]
    rcases List.mem_cons.mp member with rfl | later
    · rw [if_neg (by omega), if_pos below]
    · have begins := first interval later
      rw [if_neg (by omega)]
      split
      · rfl
      · exact ih tail later

/-- Whether each of some intervals, in ascending order, lies in an interval of a table. The search
for one of them goes on where the last one was found. -/
def within (table : List Interval) : List Interval → Bool
  | [] => true
  | interval :: rest =>
    match table.dropWhile fun other => other.last < interval.first with
    | [] => false
    | other :: others =>
      other.first ≤ interval.first && interval.last ≤ other.last && within (other :: others) rest

theorem exists_interval_of_within {table intervals : List Interval}
    (inside : within table intervals = true) {interval : Interval} (member : interval ∈ intervals) :
    ∃ other ∈ table, other.first ≤ interval.first ∧ interval.last ≤ other.last := by
  induction intervals generalizing table with
  | nil => cases member
  | cons head rest ih =>
    rw [within] at inside
    split at inside
    · cases inside
    · rename_i other others dropped
      simp only [Bool.and_eq_true, decide_eq_true_eq] at inside
      have kept : other :: others ⊆ table := dropped ▸ List.dropWhile_subset _
      rcases List.mem_cons.mp member with rfl | later
      · exact ⟨other, kept List.mem_cons_self, inside.1⟩
      · obtain ⟨found, stands, bounds⟩ := ih inside.2 later
        exact ⟨found, kept stands, bounds⟩

theorem isWordChar_of_within {intervals : List Interval} (inside : within wordClass intervals = true)
    {interval : Interval} (member : interval ∈ intervals) (above : interval.first ≤ c.toNat)
    (below : c.toNat ≤ interval.last) : isWordChar c = true := by
  have steps : wordClass.IsChain fun before after => before.first ≤ after.first := by
    decide +kernel
  obtain ⟨other, stands, bounds⟩ := exists_interval_of_within inside member
  exact covers_of_mem (List.isChain_iff_pairwise.mp steps) stands (by omega) (by omega)

theorem isWordChar_of_isCased (hasCase : isCased c = true) : isWordChar c = true := by
  have inside : within wordClass cased = true := by decide +kernel
  obtain ⟨interval, member, above, below⟩ := exists_interval_of_covers hasCase
  exact isWordChar_of_within inside member above below

namespace CaseRun

def intervals (run : CaseRun) : List Interval :=
  if run.stride = 1 then [⟨run.first, run.last⟩]
  else (List.range (run.last - run.first + 1)).filterMap fun distance =>
    if distance % run.stride = 0 then some ⟨run.first + distance, run.first + distance⟩ else none

def lastImage (run : CaseRun) : Nat := run.image + (run.last - run.first)

/-- No image of the run belongs to the other one, for they lie apart or alternate. -/
def misses (run other : CaseRun) : Bool :=
  other.last < run.image ||
    (run.stride = 2 || run.first = run.last) && other.stride = 2 &&
      (run.image + other.first) % 2 = 1

def missesAll (run : CaseRun) : List CaseRun → Bool
  | [] => true
  | other :: rest => run.lastImage < other.first || run.misses other && run.missesAll rest

def isValid (run : CaseRun) : Bool :=
  run.lastImage < 0xD800 || 0xDFFF < run.image && run.lastImage < 0x110000

variable {run : CaseRun} {table : List CaseRun} {distance : Nat}

theorem isValidChar_image (valid : run.isValid = true) (inside : distance ≤ run.last - run.first) :
    (run.image + distance).isValidChar := by
  simp only [isValid, Bool.or_eq_true, Bool.and_eq_true, decide_eq_true_eq] at valid
  unfold lastImage at valid
  unfold Nat.isValidChar
  omega

theorem lowerIn_image (misses : run.missesAll table = true)
    (inside : distance ≤ run.last - run.first) (onStride : distance % run.stride = 0) :
    lowerIn table (run.image + distance) = run.image + distance := by
  induction table with
  | nil => rfl
  | cons other rest ih =>
    simp only [missesAll, CaseRun.misses, Bool.or_eq_true, Bool.and_eq_true,
      decide_eq_true_eq] at misses
    unfold lastImage at misses
    simp only [lowerIn]
    split
    · rfl
    · rename_i reached
      obtain ⟨missed, others⟩ := misses.resolve_left (by omega)
      split
      · rename_i close
        obtain ⟨⟨parity, alternates⟩, odd⟩ := missed.resolve_left (by omega)
        have even : distance % 2 = 0 := by
          rcases parity with two | single
          · rwa [two] at onStride
          · omega
        rw [alternates, if_neg (by omega)]
      · exact ih others

end CaseRun

theorem lowerIn_cases (table : List CaseRun) (n : Nat) :
    lowerIn table n = n ∨ ∃ run ∈ table, run.first ≤ n ∧ n ≤ run.last ∧
      (n - run.first) % run.stride = 0 ∧ lowerIn table n = run.image + (n - run.first) := by
  induction table with
  | nil => exact .inl rfl
  | cons head rest ih =>
    simp only [lowerIn]
    split
    · exact .inl rfl
    · split
      · split
        · rename_i onStride
          exact .inr ⟨head, List.mem_cons_self, by omega, by omega, onStride, rfl⟩
        · exact .inl rfl
      · exact ih.imp_right fun ⟨run, member, bounds⟩ =>
          ⟨run, List.mem_cons_of_mem _ member, bounds⟩

theorem isWordChar_of_lowerIn (changed : lowerIn caseRuns c.toNat ≠ c.toNat) :
    isWordChar c = true := by
  have inside : within wordClass (caseRuns.flatMap CaseRun.intervals) = true := by
    decide +kernel
  obtain ⟨run, member, above, below, onStride, _⟩ :=
    (lowerIn_cases caseRuns c.toNat).resolve_left changed
  by_cases single : run.stride = 1
  · have whole : ⟨run.first, run.last⟩ ∈ run.intervals := by
      rw [CaseRun.intervals, if_pos single]
      exact List.mem_singleton_self _
    exact isWordChar_of_within inside (List.mem_flatMap_of_mem member whole) above below
  · have point : ⟨c.toNat, c.toNat⟩ ∈ run.intervals := by
      rw [CaseRun.intervals, if_neg single]
      refine List.mem_filterMap.mpr ⟨c.toNat - run.first, List.mem_range.mpr (by omega), ?_⟩
      rw [if_pos onStride, Nat.add_sub_cancel' above]
    exact isWordChar_of_within inside (List.mem_flatMap_of_mem member point) (Nat.le_refl _)
      (Nat.le_refl _)

/-- A character that the table keeps and that is no exception. -/
structure IsLower (c : Char) : Prop where
  plain : c ≠ 'İ'
  kept : lowerIn caseRuns c.toNat = c.toNat

/-- A lower-case character stays as it is wherever it stands. -/
theorem IsLower.lowerBetween_eq (lower : IsLower c) (before after : List Char) :
    lowerBetween before c after = [c] := by
  have notSigma : c ≠ 'Σ' := by
    rintro rfl
    exact absurd lower.kept (by decide +kernel)
  rw [lowerBetween, if_neg notSigma, if_neg lower.plain, lower.kept, Char.ofNat_toNat]

theorem isLower_ofNat_lowerIn (plain : c ≠ 'İ') :
    IsLower (Char.ofNat (lowerIn caseRuns c.toNat)) := by
  have settled : ∀ run ∈ caseRuns, run.isValid = true ∧ run.missesAll caseRuns = true ∧
      (run.lastImage < 'İ'.toNat ∨ 'İ'.toNat < run.image) := by
    decide +kernel
  rcases lowerIn_cases caseRuns c.toNat with kept | ⟨run, member, above, below, onStride, image⟩
  · rw [kept, Char.ofNat_toNat]
    exact ⟨plain, kept⟩
  · obtain ⟨valid, misses, apart⟩ := settled run member
    have inside : c.toNat - run.first ≤ run.last - run.first := by omega
    have code : (Char.ofNat (run.image + (c.toNat - run.first))).toNat =
        run.image + (c.toNat - run.first) := by
      rw [Char.ofNat, dif_pos (CaseRun.isValidChar_image valid inside)]
      rfl
    rw [image]
    refine ⟨fun same => ?_, ?_⟩
    · rw [same] at code
      unfold CaseRun.lastImage at apart
      omega
    · rw [code, CaseRun.lowerIn_image misses inside onStride]

/-- Lower-casing writes nothing but lower-case characters. -/
theorem isLower_of_mem_lowerBetween (member : d ∈ lowerBetween before c after) : IsLower d := by
  unfold lowerBetween at member
  split at member
  · have sigma : d = 'ς' ∨ d = 'σ' := by
      rw [List.mem_singleton] at member
      split at member
      · exact .inl member
      · exact .inr member
    rcases sigma with rfl | rfl
    · exact ⟨by decide, by decide +kernel⟩
    · exact ⟨by decide, by decide +kernel⟩
  · split at member
    · have dotted : d = 'i' ∨ d = '\u0307' := by simpa using member
      rcases dotted with rfl | rfl
      · exact ⟨by decide, by decide +kernel⟩
      · exact ⟨by decide, by decide +kernel⟩
    · rename_i plain
      rw [List.mem_singleton.mp member]
      exact isLower_ofNat_lowerIn plain

theorem isLower_of_mem_lowerAfter (member : d ∈ lowerAfter before text) : IsLower d := by
  induction text generalizing before with
  | nil => cases member
  | cons c rest ih =>
    rw [lowerAfter, List.mem_append] at member
    exact member.elim isLower_of_mem_lowerBetween ih

theorem lowerAfter_of_isLower (lower : ∀ c ∈ text, IsLower c) (before : List Char) :
    lowerAfter before text = text := by
  induction text generalizing before with
  | nil => rfl
  | cons c rest ih =>
    obtain ⟨head, tail⟩ := List.forall_mem_cons.mp lower
    rw [lowerAfter, head.lowerBetween_eq, ih tail, List.singleton_append]

/-- A text of lower-case characters is its own lower case, wherever it was cut out. -/
theorem lowercase_of_isLower (lower : ∀ c ∈ text, IsLower c) : lowercase text = text :=
  lowerAfter_of_isLower lower []

/-- A character that separates words is lower case. -/
theorem isLower_of_separates (separates : isWordChar c = false) : IsLower c := by
  refine ⟨?_, ?_⟩
  · rintro rfl
    exact absurd separates (by decide +kernel)
  · by_contra changed
    rw [isWordChar_of_lowerIn changed] at separates
    cases separates

/-- The search for a character with a case ends at a separator that is not looked through. -/
theorem meetsCased_append (separates : isWordChar c = false) (seen : isCaseIgnorable c = false)
    (front rest : List Char) : meetsCased (front ++ c :: rest) = meetsCased front := by
  have uncased : isCased c = false := by
    cases hasCase : isCased c with
    | false => rfl
    | true =>
      rw [isWordChar_of_isCased hasCase] at separates
      cases separates
  induction front with
  | nil => simp [meetsCased, seen, uncased]
  | cons d front ih => simp only [List.cons_append, meetsCased, ih]

theorem lowerAfter_append_before (separates : isWordChar c = false)
    (seen : isCaseIgnorable c = false) (before rest text : List Char) :
    lowerAfter (before ++ c :: rest) text = lowerAfter before text := by
  induction text generalizing before with
  | nil => rfl
  | cons d after ih =>
    simp only [lowerAfter, lowerBetween, meetsCased_append separates seen]
    rw [← List.cons_append, ih]

theorem lowerAfter_append (separates : isWordChar c = false) (seen : isCaseIgnorable c = false)
    (before front rest : List Char) :
    lowerAfter before (front ++ c :: rest) = lowerAfter before front ++ c :: lowercase rest := by
  induction front generalizing before with
  | nil =>
    change lowerBetween before c rest ++ lowerAfter (c :: before) rest = c :: lowerAfter [] rest
    rw [(isLower_of_separates separates).lowerBetween_eq, List.singleton_append]
    exact congrArg (c :: ·) (lowerAfter_append_before separates seen [] before rest)
  | cons d front ih =>
    simp only [List.cons_append, lowerAfter, lowerBetween, meetsCased_append separates seen, ih,
      List.append_assoc]

/-- What stands on the other side of a separator that is not looked through has no influence on the
lower case. -/
theorem lowercase_append (separates : isWordChar c = false) (seen : isCaseIgnorable c = false)
    (front rest : List Char) :
    lowercase (front ++ c :: rest) = lowercase front ++ c :: lowercase rest :=
  lowerAfter_append separates seen [] front rest

end WordTally.Unicode
