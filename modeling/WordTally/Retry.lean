import WordTally.Span
import WordTally.Text.Numeral

set_option autoImplicit false

namespace WordTally

structure RetryPolicy where
  maxRetries : Nat
  baseBackoff : Span
  deriving DecidableEq, Repr, Inhabited

namespace RetryPolicy

def standard : RetryPolicy := ⟨5, .ofMillis 100⟩

def longestBackoff : Span := .ofSeconds 60

/-- The pause before the retry that follows `attempt` earlier ones: it doubles each time, sixteen
times at most, up to the longest pause. -/
def backoff (policy : RetryPolicy) (attempt : Nat) : Span :=
  (policy.baseBackoff.times (Nat.pow 2 (min attempt 16))).shorter longestBackoff

/-- Whether another try is allowed after `attempt` failed ones. -/
def allows (policy : RetryPolicy) (attempt : Nat) : Bool := attempt < policy.maxRetries

/-- The number of tries in all, as messages tell it: it does not exceed 32 bits. -/
def tries (policy : RetryPolicy) : Nat := min (policy.maxRetries + 1) Text.max32

theorem backoff_le_longest (policy : RetryPolicy) (attempt : Nat) :
    (policy.backoff attempt).nanos ≤ longestBackoff.nanos := by
  simp only [backoff, Span.shorter]
  omega

end RetryPolicy

end WordTally
