import Matchday.Time.Instant

set_option autoImplicit false

namespace Matchday

structure ThrottleRecord where
  matchId : Int
  lastNotifiedAt : Instant
  deriving DecidableEq, Repr

def longestDuration : Duration := 9223372036854775807 * nanosPerMilli

/-- So many milliseconds, or the longest duration if that is shorter. -/
def intervalOfMillis (ms : Nat) : Duration := min (ms * nanosPerMilli : Nat) longestDuration

namespace ThrottleRecord

/-- The time since the last notification, none if that lies ahead. -/
def elapsed (r : ThrottleRecord) (now : Instant) : Duration := max (now.since r.lastNotifiedAt) 0

/-- The milliseconds to wait before an interval has passed, none once it has. -/
def retryAfter (r : ThrottleRecord) (now : Instant) (interval : Duration) : Option Nat :=
  let elapsed := r.elapsed now
  if interval ≤ elapsed then none
  else
    let remaining := interval - elapsed
    let whole := remaining.tdiv nanosPerMilli
    let wait := if whole * nanosPerMilli < remaining then min (whole + 1) 9223372036854775807 else whole
    if 0 ≤ wait then some wait.toNat else none

end ThrottleRecord

/-- The answer to a caller who wants to notify. -/
inductive ThrottleDecision
  | emit (record : ThrottleRecord)
  | suppress (lastNotifiedAt : Instant) (retryAfterMs : Nat)
  deriving DecidableEq, Repr

def ThrottleDecision.shouldEmit : ThrottleDecision → Bool
  | .emit _ => true
  | .suppress _ _ => false

end Matchday
