import WordTally.Proofs.Outcomes
import WordTally.Settings

set_option autoImplicit false

namespace WordTally

theorem Text.readNumeral_le {limit number : Nat} {text : String}
    (read : readNumeral limit text = .ok number) : number ≤ limit := by
  unfold readNumeral at read
  split at read
  · cases read
  · cases read
  · exact readDigits_le (Nat.zero_le limit) read
  · exact readDigits_le (Nat.zero_le limit) read

namespace Settings

variable {lookup : String → Option String} {settings : Settings}

theorem readNumber_le {limit number : Nat} {value : String}
    (read : readNumber limit value = .ok number) : number ≤ limit := by
  unfold readNumber at read
  split at read
  · rename_i found numeral
    cases read
    exact Text.readNumeral_le numeral
  · cases read

theorem eq_ok_of_checked {α : Type} {which : Variable}
    {reader : String → Except SettingsFault α} {result : α}
    (passed : checked lookup which reader = .ok result) :
    reader (given lookup which.name which.default) = .ok result := by
  unfold checked at passed
  dsimp only at passed
  split at passed
  · rename_i found read
    cases passed
    exact read
  · cases passed

theorem readPositive_pos {number : Nat} {value : String} (read : readPositive value = .ok number) :
    1 ≤ number := by
  unfold readPositive at read
  obtain ⟨found, -, read⟩ := bind_eq_ok_iff.mp read
  split at read
  · cases read
  · rename_i some_number
    cases read
    exact Nat.one_le_iff_ne_zero.mpr some_number

/-- The settings are what the readers make of the variables, each of its own. -/
structure ReadFrom (lookup : String → Option String) (settings : Settings) : Prop where
  brokers : readBrokers (given lookup Variable.brokers.name Variable.brokers.default) =
    .ok settings.brokers
  schemaRegistry :
    readEndpoint (given lookup Variable.schemaRegistry.name Variable.schemaRegistry.default) =
      .ok settings.schemaRegistry
  restProxy : readEndpoint (given lookup Variable.restProxy.name Variable.restProxy.default) =
    .ok settings.restProxy
  commitMillis :
    readPositive (given lookup Variable.commitInterval.name Variable.commitInterval.default) =
      .ok settings.commitMillis
  shards : readPositive (given lookup Variable.shards.name Variable.shards.default) =
    .ok settings.shards
  sinkRetry : ∃ retries millis,
    readNumber Text.max32 (given lookup Variable.sinkRetries.name Variable.sinkRetries.default) =
        .ok retries ∧
      readNumber Text.max64 (given lookup Variable.sinkBackoff.name Variable.sinkBackoff.default) =
        .ok millis ∧
      settings.sinkRetry = ⟨retries, .ofMillis millis⟩

theorem readFrom_of_read (read : Settings.read lookup = .ok settings) :
    ReadFrom lookup settings := by
  unfold Settings.read at read
  obtain ⟨brokers, brokersRead, read⟩ := bind_eq_ok_iff.mp read
  obtain ⟨registry, registryRead, read⟩ := bind_eq_ok_iff.mp read
  obtain ⟨proxy, proxyRead, read⟩ := bind_eq_ok_iff.mp read
  obtain ⟨commit, commitRead, read⟩ := bind_eq_ok_iff.mp read
  obtain ⟨shards, shardsRead, read⟩ := bind_eq_ok_iff.mp read
  obtain ⟨retries, retriesRead, read⟩ := bind_eq_ok_iff.mp read
  obtain ⟨backoff, backoffRead, read⟩ := bind_eq_ok_iff.mp read
  obtain ⟨reset, -, read⟩ := bind_eq_ok_iff.mp read
  obtain ⟨level, -, read⟩ := bind_eq_ok_iff.mp read
  cases read
  exact {
    brokers := eq_ok_of_checked brokersRead
    schemaRegistry := eq_ok_of_checked registryRead
    restProxy := eq_ok_of_checked proxyRead
    commitMillis := eq_ok_of_checked commitRead
    shards := eq_ok_of_checked shardsRead
    sinkRetry := ⟨retries, backoff, eq_ok_of_checked retriesRead,
      eq_ok_of_checked backoffRead, rfl⟩ }

end Settings

end WordTally
