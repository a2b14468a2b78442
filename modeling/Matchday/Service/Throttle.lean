import Matchday.Service.Action

set_option autoImplicit false

namespace Matchday.Service

open Matchday

def accessThrottle : AccessFault → Cause := Cause.ofAccess .throttle

def getThrottle (matchId : Int) : Action ThrottleRecord := do
  let found ← Action.ask accessThrottle (.ask (.findThrottle matchId))
  Action.require (.missingEntry matchId) found

def touchThrottle (matchId : Int) (time : Option Instant) : Action ThrottleRecord :=
  Action.ask accessThrottle (.ask (.touchThrottle matchId time))

/-- The wait that an entry asks for. -/
def pendingWait (interval : Duration) (now : Instant) (found : Option ThrottleRecord) :
    Option (Instant × Nat) := do
  let record ← found
  let wait ← record.retryAfter now interval
  pure (record.lastNotifiedAt, wait)

def acquireThrottle (interval : Duration) (matchId : Int) : Action ThrottleDecision := do
  let now ← Action.time
  let found ← Action.ask accessThrottle (.ask (.findThrottle matchId))
  match pendingWait interval now found with
  | some (last, wait) => pure (.suppress last wait)
  | none => do
    let record ← touchThrottle matchId (some now)
    pure (.emit record)

def clearThrottle (matchId : Int) : Action Unit := do
  let removed ← Action.ask accessThrottle (.ask (.deleteThrottle matchId))
  if removed then pure () else Action.fail (.missingEntry matchId)

end Matchday.Service
