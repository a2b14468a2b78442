set_option autoImplicit false

namespace Matchday

abbrev Duration := Int

def nanosPerSecond : Nat := 1000000000

def nanosPerMilli : Nat := 1000000

structure Instant where
  seconds : Int
  nanos : Nat
  deriving DecidableEq, Repr

namespace Instant

def epoch : Instant := ⟨0, 0⟩

/-- The first second that an instant can have: -262143-01-01. -/
def firstSecond : Int := -8334601228800

def lastSecond : Int := 8210266876799

def ofMillis? (ms : Int) : Option Instant :=
  let seconds := ms / 1000
  if firstSecond ≤ seconds ∧ seconds ≤ lastSecond then
    some ⟨seconds, (ms % 1000).toNat * nanosPerMilli⟩
  else none

def toMillis (i : Instant) : Int := i.seconds * 1000 + (i.nanos / nanosPerMilli : Nat)

def isLeap (i : Instant) : Bool := nanosPerSecond ≤ i.nanos

def secondOfDay (i : Instant) : Int := i.seconds % 86400

/-- Seconds to add to a difference for a leap second that lies between two times of day. -/
def leapCorrection (a b : Instant) : Int :=
  if b.secondOfDay < a.secondOfDay ∧ b.isLeap then 1
  else if a.secondOfDay < b.secondOfDay ∧ a.isLeap then -1
  else 0

def since (a b : Instant) : Duration :=
  (a.seconds - b.seconds + leapCorrection a b) * nanosPerSecond + ((a.nanos : Int) - b.nanos)

def add (i : Instant) (d : Duration) : Instant :=
  let total := i.seconds * nanosPerSecond + i.nanos + d
  ⟨total / nanosPerSecond, (total % nanosPerSecond).toNat⟩

theorem since_eq (a b : Instant) (ha : a.isLeap = false) (hb : b.isLeap = false) :
    a.since b =
      (a.seconds * nanosPerSecond + a.nanos) - (b.seconds * nanosPerSecond + b.nanos) := by
  simp only [since, leapCorrection, ha, hb, Bool.false_eq_true, and_false, if_false]
  grind

end Instant

end Matchday
