import WordTally.Feed

set_option autoImplicit false

namespace WordTally

namespace Json

/-- A value holds a text: in the first of its members called `words`, or as its only element. -/
inductive HoldsText : Json → String → Prop where
  | member (before after : List (String × Json)) (text : String)
      (first : ∀ member ∈ before, member.1 ≠ "words") :
      HoldsText (.object (before ++ ("words", .string text) :: after)) text
  | element (text : String) : HoldsText (.array [.string text]) text

variable {name text : String} {members : List (String × Json)} {value : Json}

theorem member?_eq_lookup (name : String) (members : List (String × Json)) :
    member? name members = members.lookup name := by
  induction members with
  | nil => rfl
  | cons member rest ih =>
    obtain ⟨other, value⟩ := member
    rw [member?, List.lookup_cons, ih]
    by_cases same : other = name
    · simp [same]
    · have differs : (name == other) = false := beq_eq_false_iff_ne.mpr (Ne.symm same)
      simp [same, differs]

theorem member?_eq_some_iff :
    member? name members = some value ↔ ∃ before after,
      members = before ++ (name, value) :: after ∧ ∀ member ∈ before, member.1 ≠ name := by
  rw [member?_eq_lookup, List.lookup_eq_some_iff]
  simp only [bne_iff_ne, ne_comm]

theorem asText_eq_ok_iff : value.asText = .ok text ↔ value = .string text := by
  cases value <;> simp [asText]

/-- Reading the field finds the text that a value holds, and nothing else. -/
theorem wordsField_eq_ok_iff : value.wordsField = .ok text ↔ value.HoldsText text := by
  constructor
  · intro read
    unfold wordsField at read
    split at read
    · rename_i members
      split at read
      · rename_i field found
        rw [asText_eq_ok_iff] at read
        subst read
        obtain ⟨before, after, rfl, first⟩ := member?_eq_some_iff.mp found
        exact .member before after text first
      · cases read
    · cases read
    · rename_i field
      rw [asText_eq_ok_iff] at read
      subst read
      exact .element text
    · rename_i field next rest
      -- Even a text in front does not help when more elements follow.
      cases field <;> cases read
    · cases read
  · intro holds
    cases holds with
    | member before after _ first =>
      have found : member? "words" (before ++ ("words", .string text) :: after) =
          some (.string text) := member?_eq_some_iff.mpr ⟨before, after, rfl, first⟩
      rw [wordsField, found]
      rfl
    | element => rfl

end Json

namespace RawRecord

variable {raw : RawRecord} {record : Record}

theorem decode_eq_ok_iff :
    raw.decode = .ok record ↔
      ∃ text, raw.value.HoldsText text ∧ record = ⟨raw.key, text, raw.partition, raw.offset⟩ := by
  unfold decode
  constructor
  · intro decoded
    split at decoded
    · rename_i text read
      cases decoded
      exact ⟨text, Json.wordsField_eq_ok_iff.mp read, rfl⟩
    · cases decoded
  · rintro ⟨text, holds, rfl⟩
    rw [Json.wordsField_eq_ok_iff.mpr holds]

theorem exists_mismatch (empty : ∀ text, ¬ raw.value.HoldsText text) :
    ∃ fault, raw.decode = .error ⟨raw.partition, raw.offset, fault⟩ := by
  unfold decode
  cases read : raw.value.wordsField with
  | ok text => exact absurd (Json.wordsField_eq_ok_iff.mp read) (empty text)
  | error fault => exact ⟨fault, rfl⟩

/-- Decoding takes exactly the records whose value holds a text, keeps their key and position, and
tells where a record stood that it refuses. What a feeder makes of a line is taken as that line. -/
theorem decodes_held_text (raw : RawRecord) :
    (∀ record, raw.decode = .ok record ↔
      ∃ text, raw.value.HoldsText text ∧ record = ⟨raw.key, text, raw.partition, raw.offset⟩) ∧
    ((∀ text, ¬ raw.value.HoldsText text) →
      ∃ fault, raw.decode = .error ⟨raw.partition, raw.offset, fault⟩) ∧
    ∀ (feed : Feed) (partition offset : Nat) (line : String),
      ∃ sent, feed.sendLine partition offset line = feed.send sent ∧
        sent.decode = .ok ⟨none, line, partition, offset⟩ :=
  ⟨fun _ => decode_eq_ok_iff, exists_mismatch,
    fun _ partition offset line => ⟨ofLine partition offset line, rfl, decode_ofLine ..⟩⟩

/-- Two texts in one array are one too many. -/
def crowded : RawRecord := ⟨some "k", .array [.string "a", .string "b"], 2, 9⟩

theorem crowded_refused :
    (∀ text, ¬ crowded.value.HoldsText text) ∧
      ∃ fault, crowded.decode = .error ⟨2, 9, fault⟩ := by
  have empty : ∀ text, ¬ crowded.value.HoldsText text := nofun
  exact ⟨empty, (decodes_held_text crowded).2.1 empty⟩

end RawRecord

end WordTally
