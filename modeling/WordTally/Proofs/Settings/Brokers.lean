import WordTally.Proofs.Settings.Reading
import WordTally.Proofs.Text.Cutting

set_option autoImplicit false

namespace WordTally.Settings

open Text Unicode

def mark : String := "://"

/-- The entries of a list: what stands between the commas, without the blanks around it. Nothing is
no entry. -/
def listed (value : String) : List String :=
  ((pieces ',' value.toList).map fun piece => trim (String.ofList piece)).filter fun entry =>
    !entry.isEmpty

/-- A host and a port of sixteen bits, parted by the last colon. -/
def IsAddress (broker : String) : Prop :=
  ∃ host port : List Char, broker.toList = host ++ ':' :: port ∧ host ≠ [] ∧ ':' ∉ port ∧
    ∃ number ≤ max16, readNumeral max16 (String.ofList port) = .ok number

/-- What is left of an entry without its protocol, which ends at the first mark. -/
inductive Unmarked (entry : String) : String → Prop where
  | plain (unmarked : ¬ mark.toList <:+: entry.toList) : Unmarked entry entry
  | marked {broker : String} (protocol : List Char)
      (whole : entry.toList = protocol ++ mark.toList ++ broker.toList)
      (first : ∀ other later, entry.toList = other ++ mark.toList ++ later →
        protocol.length ≤ other.length) : Unmarked entry broker

/-- Nothing that reading an entry would cut off. -/
structure Clean (broker : String) : Prop where
  bare : StartsBare broker.toList
  unmarked : ¬ mark.toList <:+: broker.toList

def Compact (address : String) : Prop :=
  ∀ host port : List Char, address.toList = host ++ ':' :: port → ':' ∉ port → EndsBare host

/-- An entry whose protocol, if it has one, is followed by the address at once, and its host by the
colon of the port. -/
structure Direct (entry : String) : Prop where
  address : ∀ protocol rest : List Char, entry.toList = protocol ++ mark.toList ++ rest →
    StartsBare rest ∧ ¬ mark.toList <:+: rest
  compact : Compact entry

variable {entry broker value : String} {brokers : List String}

theorem readBroker_eq_ok_iff : readBroker entry = .ok broker ↔
    (afterMark? mark.toList entry.toList).getD entry.toList = broker.toList ∧ IsAddress broker := by
  unfold readBroker
  rw [show "://" = mark from rfl]
  dsimp only
  generalize (afterMark? mark.toList entry.toList).getD entry.toList = address
  constructor
  · intro read
    split at read
    · cases read
    · rename_i host port found
      split at read
      · cases read
      · rename_i some_host
        split at read
        · rename_i number accepted
          cases read
          obtain ⟨whole, last⟩ := cutAtLast?_eq_some_iff.mp found
          refine ⟨String.toList_ofList.symm, host, port, ?_, ?_, last, number, ?_, accepted⟩
          · rw [String.toList_ofList, whole]
          · rintro rfl
            exact some_host rfl
          · exact readNumeral_le accepted
        · cases read
  · rintro ⟨rfl, host, port, whole, some_host, last, number, -, accepted⟩
    have found : cutAtLast? ':' broker.toList = some (host, port) :=
      cutAtLast?_eq_some_iff.mpr ⟨whole, last⟩
    rw [found]
    dsimp only
    rw [if_neg (by simpa using some_host), accepted]
    dsimp only
    rw [String.ofList_toList]

theorem Unmarked.of_readBroker (read : readBroker entry = .ok broker) : Unmarked entry broker := by
  have left := (readBroker_eq_ok_iff.mp read).1
  cases found : afterMark? mark.toList entry.toList with
  | none =>
    rw [found, Option.getD_none] at left
    rw [← String.toList_inj.mp left]
    exact .plain ((afterMark?_eq_none_iff (by decide)).mp found)
  | some rest =>
    rw [found, Option.getD_some] at left
    subst left
    obtain ⟨protocol, whole, first⟩ := eq_of_afterMark? found
    exact .marked protocol whole first

namespace Unmarked

theorem suffix (unmarked : Unmarked entry broker) : broker.toList <:+ entry.toList := by
  cases unmarked with
  | plain _ => exact List.suffix_rfl
  | marked protocol whole _ => exact ⟨protocol ++ mark.toList, whole.symm⟩

theorem of_length_le (unmarked : Unmarked entry broker)
    (whole : entry.toList.length ≤ broker.toList.length) :
    entry = broker ∧ ¬ mark.toList <:+: entry.toList := by
  cases unmarked with
  | plain absent => exact ⟨rfl, absent⟩
  | marked protocol parts _ =>
    have longer : mark.toList.length = 3 := by decide
    rw [parts, List.length_append, List.length_append] at whole
    omega

theorem clean (unmarked : Unmarked entry broker) (bare : StartsBare entry.toList)
    (direct : Direct entry) : Clean broker := by
  cases unmarked with
  | plain absent => exact ⟨bare, absent⟩
  | marked protocol whole _ =>
    obtain ⟨starts, absent⟩ := direct.address protocol broker.toList whole
    exact ⟨starts, absent⟩

theorem compact (unmarked : Unmarked entry broker) (compact : Compact entry) : Compact broker := by
  obtain ⟨before, whole⟩ := unmarked.suffix
  intro host port parted last
  have behind : EndsBare (before ++ host) := by
    refine compact _ port ?_ last
    rw [← whole, parted, List.append_assoc]
  exact endsBare_of_suffix behind (List.suffix_append before host)

end Unmarked

/-- What was read is read back as it is just in case nothing would be cut off from it. -/
theorem readBroker_trim_iff (address : IsAddress broker) (ends : EndsBare broker.toList) :
    readBroker (trim broker) = .ok broker ↔ Clean broker := by
  constructor
  · intro read
    have unmarked := Unmarked.of_readBroker read
    obtain ⟨same, absent⟩ := unmarked.of_length_le (infix_of_trim broker).length_le
    rw [same] at absent
    exact ⟨(trim_eq_self_iff.mp same).1, absent⟩
  · intro clean
    rw [trim_eq_self_iff.mpr ⟨clean.bare, ends⟩, readBroker_eq_ok_iff,
      (afterMark?_eq_none_iff (by decide)).mpr clean.unmarked]
    exact ⟨rfl, address⟩

theorem readBrokers_eq_ok_iff : readBrokers value = .ok brokers ↔
    brokers ≠ [] ∧
      List.Forall₂ (fun entry broker => readBroker entry = .ok broker) (listed value) brokers := by
  unfold readBrokers
  rw [bind_eq_ok_iff]
  constructor
  · rintro ⟨found, each, some_broker⟩
    split at some_broker
    · cases some_broker
    · rename_i some_found
      cases some_broker
      exact ⟨fun empty => some_found (List.isEmpty_iff.mpr empty), mapM_eq_ok_iff.mp each⟩
  · rintro ⟨some_broker, each⟩
    refine ⟨brokers, mapM_eq_ok_iff.mpr each, if_neg ?_⟩
    rwa [List.isEmpty_iff]

theorem bare_of_mem_listed (member : entry ∈ listed value) :
    StartsBare entry.toList ∧ EndsBare entry.toList ∧ ',' ∉ entry.toList := by
  obtain ⟨piece, found, rfl⟩ := List.mem_map.mp (List.mem_filter.mp member).1
  refine ⟨startsBare_trim _, endsBare_trim _, fun stands => ?_⟩
  refine not_mem_of_mem_pieces found ?_
  rw [← String.toList_ofList (l := piece)]
  exact (infix_of_trim _).subset stands

/-- What is known of each broker of a list that was read. -/
structure Settled (broker : String) : Prop where
  address : IsAddress broker
  ends : EndsBare broker.toList
  whole : ',' ∉ broker.toList

theorem Settled.of_readBroker (read : readBroker entry = .ok broker)
    (member : entry ∈ listed value) : Settled broker := by
  have suffix := (Unmarked.of_readBroker read).suffix
  obtain ⟨-, ends, whole⟩ := bare_of_mem_listed member
  exact ⟨(readBroker_eq_ok_iff.mp read).2, endsBare_of_suffix ends suffix,
    fun stands => whole (suffix.subset stands)⟩

theorem Settled.trim_ne_empty (settled : Settled broker) : trim broker ≠ "" := by
  intro empty
  obtain ⟨host, port, parts, -⟩ := settled.address
  have some_char : broker.toList ≠ [] := by simp [parts]
  have last := settled.ends _ (List.getLast?_eq_some_getLast some_char)
  have blank := isBlank_of_trim_eq_empty empty (List.getLast_mem some_char)
  rw [last] at blank
  cases blank

theorem listed_intercalate (some_broker : brokers ≠ [])
    (settled : ∀ broker ∈ brokers, Settled broker) :
    listed (",".intercalate brokers) = brokers.map trim := by
  have joined : (",".intercalate brokers).toList = [','].intercalate (brokers.map String.toList) :=
    String.toList_intercalate
  have parted : pieces ',' (",".intercalate brokers).toList = brokers.map String.toList := by
    rw [joined]
    refine pieces_intercalate (by simpa using some_broker) fun part member => ?_
    obtain ⟨broker, found, rfl⟩ := List.mem_map.mp member
    exact (settled broker found).whole
  rw [listed, parted, List.map_map, List.filter_eq_self.mpr]
  · simp [Function.comp_def]
  · intro entry member
    obtain ⟨broker, found, rfl⟩ := List.mem_map.mp member
    simpa using (settled broker found).trim_ne_empty

/-- A list of brokers that was read.

There is at least one broker, and each is a host that is not empty and a port of sixteen bits: what
an entry of the list holds behind its first protocol mark. Reading the list again from its own text
gives the same brokers just in case none of them begins with a blank or holds a further mark. So it
is for every list of direct entries, and there no host ends in a blank either. -/
theorem brokers_settled (read : readBrokers value = .ok brokers) :
    brokers ≠ [] ∧
      (∀ broker ∈ brokers, IsAddress broker ∧ EndsBare broker.toList) ∧
      List.Forall₂ Unmarked (listed value) brokers ∧
      (readBrokers (",".intercalate brokers) = .ok brokers ↔ ∀ broker ∈ brokers, Clean broker) ∧
      ((∀ entry ∈ listed value, Direct entry) →
        (∀ broker ∈ brokers, Clean broker ∧ Compact broker) ∧
          readBrokers (",".intercalate brokers) = .ok brokers) := by
  obtain ⟨some_broker, each⟩ := readBrokers_eq_ok_iff.mp read
  have settled : ∀ broker ∈ brokers, Settled broker := by
    intro broker member
    obtain ⟨entry, inside, same⟩ := exists_of_mem_results each member
    exact .of_readBroker same inside
  have again : readBrokers (",".intercalate brokers) = .ok brokers ↔
      ∀ broker ∈ brokers, Clean broker := by
    rw [readBrokers_eq_ok_iff, listed_intercalate some_broker settled, List.forall₂_map_left_iff,
      List.forall₂_same, and_iff_right some_broker]
    exact forall₂_congr fun broker member =>
      readBroker_trim_iff (settled broker member).address (settled broker member).ends
  refine ⟨some_broker, fun broker member => ⟨(settled broker member).address,
    (settled broker member).ends⟩, each.imp fun _ _ => Unmarked.of_readBroker, again,
    fun direct => ?_⟩
  have clean : ∀ broker ∈ brokers, Clean broker ∧ Compact broker := by
    intro broker member
    obtain ⟨entry, inside, same⟩ := exists_of_mem_results each member
    have unmarked := Unmarked.of_readBroker same
    exact ⟨unmarked.clean (bare_of_mem_listed inside).1 (direct entry inside),
      unmarked.compact (direct entry inside).compact⟩
  exact ⟨clean, again.mpr fun broker member => (clean broker member).1⟩

/-- A blank behind a protocol is kept, and so is a second protocol. Read again, the list is another
one. -/
theorem brokers_unsettled :
    readBrokers "PLAINTEXT:// a:1, SSL://SASL://b:2, c:3" =
        .ok [" a:1", "SASL://b:2", "c:3"] ∧
      ¬ Clean " a:1" ∧ ¬ Clean "SASL://b:2" ∧ Clean "c:3" ∧
      readBrokers (",".intercalate [" a:1", "SASL://b:2", "c:3"]) ≠
        .ok [" a:1", "SASL://b:2", "c:3"] := by
  have read : readBrokers "PLAINTEXT:// a:1, SSL://SASL://b:2, c:3" =
      .ok [" a:1", "SASL://b:2", "c:3"] := by decide +kernel
  have blank : ¬ Clean " a:1" := fun clean => absurd (clean.bare ' ' rfl) (by decide)
  have second : ¬ Clean "SASL://b:2" := fun clean => absurd clean.unmarked (by decide +kernel)
  have plain : Clean "c:3" := by
    refine ⟨?_, by decide +kernel⟩
    rintro c first
    cases first
    decide
  obtain ⟨-, -, -, again, -⟩ := brokers_settled read
  exact ⟨read, blank, second, plain, fun same => blank (again.mp same _ (by simp))⟩

/-- The last colon parts host and port, whatever the host holds. -/
example : readBrokers "SSL://[::1]:9092,,fe80::1:+80" = .ok ["[::1]:9092", "fe80::1:+80"] := by
  decide +kernel

end WordTally.Settings
