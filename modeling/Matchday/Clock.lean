set_option autoImplicit false

namespace Matchday

inductive ClockStatus
  | stopped
  | running
  | paused
  deriving DecidableEq, Repr, Inhabited

structure UnknownStatus where
  text : String
  deriving DecidableEq, Repr

def UnknownStatus.message (e : UnknownStatus) : String := s!"unknown clock status: {e.text}"

namespace ClockStatus

def all : List ClockStatus := [stopped, running, paused]

def name : ClockStatus → String
  | stopped => "stopped"
  | running => "running"
  | paused => "paused"

def ofName (text : String) : Except UnknownStatus ClockStatus :=
  match all.find? (fun s => s.name == text) with
  | some s => .ok s
  | none => .error ⟨text⟩

end ClockStatus

def playclockLimit : Int := 300

inductive ClockError
  | nonPositiveMax
  | gameclockOutOfRange (value max : Int)
  | negativeStart
  | missingStart
  | startWhileIdle
  | playclockOutOfRange (seconds : Int)
  | alreadyRunning
  | notRunning
  deriving DecidableEq, Repr

namespace ClockError

def message : ClockError → String
  | nonPositiveMax => "gameclock_max must be greater than zero"
  | gameclockOutOfRange value max => s!"gameclock {value} must lie between 0 and {max}"
  | negativeStart => "started_at_ms must not be negative"
  | missingStart => "a running gameclock needs started_at_ms"
  | startWhileIdle => "started_at_ms is only kept while the gameclock runs"
  | playclockOutOfRange seconds => s!"playclock {seconds} must lie between 1 and {playclockLimit}"
  | alreadyRunning => "clock is already running"
  | notRunning => "clock is not running"

/-- Whether the clock's state, and not the request, is at fault. -/
def isConflict : ClockError → Bool
  | alreadyRunning => true
  | notRunning => true
  | _ => false

end ClockError

end Matchday
