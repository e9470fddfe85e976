import Mathlib.Algebra.Group.Nat.Defs
import Mathlib.Order.Monotone.Basic
import WordTally.Proofs.Settings.Reading

set_option autoImplicit false

namespace WordTally

namespace Span

def seconds (span : Span) : Nat := span.nanos / second

def fraction (span : Span) : Nat := span.nanos % second

/-- The product of the parts, with what the nanoseconds carry to the seconds; none when 64 bits do
not hold the seconds. -/
def product? (span : Span) (factor : Nat) : Option Span :=
  let nanos := span.fraction * factor
  let seconds := span.seconds * factor + nanos / second
  if seconds ≤ Text.max64 then some ⟨seconds * second + nanos % second⟩ else none

theorem seconds_fraction (span : Span) :
    span.seconds * second + span.fraction = span.nanos := by
  have parts := Nat.div_add_mod span.nanos second
  rw [Nat.mul_comm] at parts
  exact parts

/-- The nanoseconds of a product fit into 64 bits before anything is carried. -/
theorem fraction_mul_le (span : Span) {factor : Nat} (small : factor ≤ Text.max32) :
    span.fraction * factor ≤ Text.max64 := by
  have below : span.fraction < second := Nat.mod_lt _ (by decide)
  calc span.fraction * factor ≤ second * Text.max32 := Nat.mul_le_mul below.le small
    _ ≤ Text.max64 := by decide

/-- A product is cut off exactly where its seconds no longer fit. -/
theorem times_eq_product (span : Span) (factor : Nat) :
    span.times factor = (span.product? factor).getD longest := by
  have carried := Nat.div_add_mod (span.fraction * factor) second
  have below : span.fraction * factor % second < second := Nat.mod_lt _ (by decide)
  have whole : span.nanos * factor =
      second * (span.seconds * factor + span.fraction * factor / second) +
        span.fraction * factor % second := by
    rw [Nat.mul_add, Nat.add_assoc, carried, ← Nat.mul_assoc, Nat.mul_comm second, ← Nat.add_mul,
      seconds_fraction]
  unfold times product?
  dsimp only
  rw [whole]
  generalize span.seconds * factor + span.fraction * factor / second = seconds
  generalize span.fraction * factor % second = rest at below
  have last : longest.nanos = second * Text.max64 + (second - 1) := by decide
  split
  · rename_i fits
    have smaller := Nat.mul_le_mul_left second fits
    rw [Option.getD_some, Nat.min_eq_left (by omega), Nat.mul_comm]
  · rename_i beyond
    have larger := Nat.mul_le_mul_left second (Nat.lt_of_not_le beyond)
    rw [Nat.mul_succ] at larger
    rw [Option.getD_none, Nat.min_eq_right (by omega)]

end Span

namespace RetryPolicy

theorem factor_le (attempt : Nat) : Nat.pow 2 (min attempt 16) ≤ 65536 :=
  Nat.pow_le_pow_right (by decide) (Nat.min_le_right attempt 16)

/-- Cutting off at the longest span does not show, because a minute is shorter. -/
theorem nanos_backoff (policy : RetryPolicy) (attempt : Nat) :
    (policy.backoff attempt).nanos =
      min (policy.baseBackoff.nanos * 2 ^ min attempt 16) longestBackoff.nanos := by
  have shorter : longestBackoff.nanos ≤ Span.longest.nanos := by decide
  change min (min _ _) _ = _
  rw [Nat.min_assoc, Nat.min_eq_right shorter]
  rfl

theorem backoff_monotone (policy : RetryPolicy) :
    Monotone fun attempt => (policy.backoff attempt).nanos := by
  intro earlier later order
  dsimp only
  rw [nanos_backoff, nanos_backoff]
  have exponents : min earlier 16 ≤ min later 16 := by omega
  have factors : 2 ^ min earlier 16 ≤ 2 ^ min later 16 := Nat.pow_le_pow_right (by decide) exponents
  have products := Nat.mul_le_mul_left policy.baseBackoff.nanos factors
  omega

/-- After sixteen doublings a pause that was not zero has passed the minute, if it began with a
millisecond or more. -/
theorem nanos_backoff_ofMillis {policy : RetryPolicy} {millis : Nat}
    (whole : policy.baseBackoff = .ofMillis millis) (attempt : Nat) :
    (policy.backoff attempt).nanos =
      min (millis * Span.millisecond * 2 ^ attempt) longestBackoff.nanos := by
  have base : policy.baseBackoff.nanos = millis * Span.millisecond := by rw [whole]; rfl
  rw [nanos_backoff, base]
  rcases Nat.le_total attempt 16 with few | many
  · rw [Nat.min_eq_left few]
  · rw [Nat.min_eq_right many]
    rcases Nat.eq_zero_or_pos millis with rfl | positive
    · simp
    · have minute : longestBackoff.nanos ≤ millis * Span.millisecond * 2 ^ 16 := by
        have limit : longestBackoff.nanos ≤ 1 * Span.millisecond * 2 ^ 16 := by decide
        have more := Nat.mul_le_mul_right (2 ^ 16) (Nat.mul_le_mul_right Span.millisecond positive)
        exact limit.trans more
      have factors : 2 ^ 16 ≤ 2 ^ attempt := Nat.pow_le_pow_right (by decide) many
      have further := Nat.mul_le_mul_left (millis * Span.millisecond) factors
      rw [Nat.min_eq_right minute, Nat.min_eq_right (minute.trans further)]

end RetryPolicy

namespace Settings

theorem sinkRetry_of_read {lookup : String → Option String} {settings : Settings}
    (read : Settings.read lookup = .ok settings) :
    ∃ millis ≤ Text.max64, settings.sinkRetry.baseBackoff = .ofMillis millis := by
  obtain ⟨retries, millis, -, passed, policy⟩ := (readFrom_of_read read).sinkRetry
  exact ⟨millis, readNumber_le passed, congrArg RetryPolicy.baseBackoff policy⟩

theorem retry_ofMillis_of_read {lookup : String → Option String} {settings : Settings}
    (read : Settings.read lookup = .ok settings) {retry : RetryPolicy}
    (policy : retry ∈ [settings.pipeline.sinkRetry, settings.pipeline.sourceRetry]) :
    ∃ millis ≤ Text.max64, retry.baseBackoff = .ofMillis millis := by
  simp only [List.mem_cons, List.not_mem_nil, or_false] at policy
  rcases policy with rfl | rfl
  · exact sinkRetry_of_read read
  · exact ⟨100, by decide, rfl⟩

end Settings

/-- The pauses of a policy. Nothing exceeds its word while one is computed; none is longer than a
minute or shorter than the one before; and if the first is given in whole milliseconds, as the
settings give it, each is exactly twice the one before until a minute is reached. -/
theorem RetryPolicy.pauses (policy : RetryPolicy) :
    (∀ attempt, 2 ^ min attempt 16 ≤ Text.max32 ∧
      policy.baseBackoff.fraction * 2 ^ min attempt 16 ≤ Text.max64 ∧
      policy.backoff attempt =
        ((policy.baseBackoff.product? (2 ^ min attempt 16)).getD .longest).shorter (.ofSeconds 60) ∧
      (policy.backoff attempt).nanos ≤ 60 * Span.second) ∧
    Monotone (fun attempt => (policy.backoff attempt).nanos) ∧
    (∀ millis attempt, policy.baseBackoff = .ofMillis millis →
      (policy.backoff attempt).nanos =
        min (millis * Span.millisecond * 2 ^ attempt) (60 * Span.second)) ∧
    ∀ lookup settings, Settings.read lookup = .ok settings →
      ∀ retry ∈ [settings.pipeline.sinkRetry, settings.pipeline.sourceRetry],
        ∃ millis ≤ Text.max64, retry.baseBackoff = .ofMillis millis := by
  refine ⟨fun attempt => ?_, policy.backoff_monotone, fun millis attempt whole => ?_,
    fun lookup settings read retry => Settings.retry_ofMillis_of_read read⟩
  · have small : 2 ^ min attempt 16 ≤ Text.max32 := (factor_le attempt).trans (by decide)
    refine ⟨small, policy.baseBackoff.fraction_mul_le small, ?_, policy.backoff_le_longest attempt⟩
    rw [← Span.times_eq_product]
    rfl
  · exact nanos_backoff_ofMillis whole attempt

def quarter (name : String) : Option String :=
  if name = Variable.sinkBackoff.name then some "250" else none

theorem quarter_pauses :
    ∃ settings, Settings.read quarter = .ok settings ∧
      settings.pipeline.sinkRetry.baseBackoff = .ofMillis 250 ∧
      (settings.pipeline.sinkRetry.backoff 7).nanos = 32 * Span.second ∧
      (settings.pipeline.sinkRetry.backoff 40).nanos = 60 * Span.second ∧
      ∃ millis ≤ Text.max64, settings.pipeline.sinkRetry.baseBackoff = .ofMillis millis := by
  have found : (Settings.read quarter).toOption.map Settings.sinkRetry =
      some ⟨5, .ofMillis 250⟩ := by decide +kernel
  cases read : Settings.read quarter with
  | error error =>
    rw [read] at found
    cases found
  | ok settings =>
    rw [read] at found
    have retry : settings.pipeline.sinkRetry = ⟨5, .ofMillis 250⟩ := Option.some.inj found
    have whole : settings.pipeline.sinkRetry.baseBackoff = .ofMillis 250 := by rw [retry]
    obtain ⟨-, -, exact_, built⟩ := settings.pipeline.sinkRetry.pauses
    refine ⟨settings, rfl, whole, ?_, ?_, built quarter settings read _ (by simp)⟩
    · rw [exact_ 250 7 whole]
      decide
    · rw [exact_ 250 40 whole]
      decide

/-- Below a millisecond it shows that the doubling ends: a nanosecond does not come to a minute. -/
example : ((⟨0, ⟨1⟩⟩ : RetryPolicy).backoff 36).nanos = 65536 := rfl

end WordTally
