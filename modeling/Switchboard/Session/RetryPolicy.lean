import Switchboard.Session.Config
/-!
# Retry policy

Counts failures in a row and says whether and when to try again. Delays never shrink from one
attempt to the next and never exceed the configured maximum; arithmetic stops at the end of its
word instead of wrapping.
-/

namespace Switchboard

/-- What follows a failure. -/
inductive RetryDecision where
  | retry (attempt : UInt32) (delay : Duration)
  | exhausted (attempts : UInt32)
  deriving DecidableEq, Repr

/-- The reconnection settings and the failures since the last success. -/
structure RetryPolicy where
  config : ReconnectConfig
  attempts : UInt32
  deriving DecidableEq, Repr

namespace RetryPolicy

def ofConfig (config : ReconnectConfig) : RetryPolicy := ⟨config, 0⟩

def maxWord : UInt32 := 0xFFFFFFFF

/-- The delay factor of exponential backoff: a power of two, as long as it fits the word. -/
def doublings (attempt : UInt32) : UInt32 :=
  if attempt - 1 < 32 then 1 <<< (attempt - 1) else maxWord

/-- The delay after failure number `attempt`, counted from one. -/
def delayFor (policy : RetryPolicy) (attempt : UInt32) : Duration :=
  let attempt := if attempt = 0 then 1 else attempt
  let factor := match policy.config.strategy with
    | .linear => attempt
    | .exponential => doublings attempt
  (policy.config.baseDelay.saturatingMul factor).min policy.config.maxDelay

def count (policy : RetryPolicy) : RetryPolicy :=
  { policy with
    attempts := if policy.attempts = maxWord then maxWord else policy.attempts + 1 }

/-- What follows the failures counted so far. -/
def decision (policy : RetryPolicy) : RetryDecision :=
  if policy.config.maxAttempts ≤ policy.attempts then .exhausted policy.attempts
  else .retry policy.attempts (policy.delayFor policy.attempts)

/-- Forget the failures, after a success or at a caller's wish. -/
def reset (policy : RetryPolicy) : RetryPolicy := { policy with attempts := 0 }

end RetryPolicy

end Switchboard
