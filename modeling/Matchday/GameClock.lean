import Matchday.Clock
import Matchday.Version

set_option autoImplicit false

namespace Matchday

def leastTime : Int := -9223372036854775808

def greatestTime : Int := 9223372036854775807

def greatestSeconds : Int := 2147483647

def IsTime (t : Int) : Prop := leastTime ≤ t ∧ t ≤ greatestTime

def saturateTime (t : Int) : Int := max leastTime (min greatestTime t)

/-- The whole seconds from a start to now, none if now comes first. -/
def elapsedSeconds (startedAt now : Int) : Int := max (saturateTime (now - startedAt)) 0 / 1000

def clampSeconds (seconds : Int) : Int := min (max seconds 0) greatestSeconds

structure GameClockDraft where
  matchId : Int
  gameclock : Int
  gameclockMax : Int
  status : ClockStatus
  startedAtMs : Option Int
  deriving DecidableEq, Repr

namespace GameClockDraft

def full (matchId gameclockMax : Int) : GameClockDraft :=
  ⟨matchId, gameclockMax, gameclockMax, .stopped, none⟩

def checkStart : ClockStatus → Option Int → Except ClockError Unit
  | .running, none => .error .missingStart
  | .running, some t => if t < 0 then .error .negativeStart else .ok ()
  | _, none => .ok ()
  | _, some t => if t < 0 then .error .negativeStart else .error .startWhileIdle

def check (d : GameClockDraft) : Except ClockError Unit :=
  if d.gameclockMax ≤ 0 then .error .nonPositiveMax
  else if d.gameclock < 0 ∨ d.gameclockMax < d.gameclock then
    .error (.gameclockOutOfRange d.gameclock d.gameclockMax)
  else checkStart d.status d.startedAtMs

end GameClockDraft

structure GameClock where
  id : Int
  version : Version
  fields : GameClockDraft
  deriving DecidableEq, Repr

structure GameClockPatch where
  gameclock : Option Int := none
  gameclockMax : Option Int := none
  status : Option ClockStatus := none
  startedAtMs : Option Int := none
  deriving DecidableEq, Repr

namespace GameClock

def make (id : Int) (version : Version) (d : GameClockDraft) : Except ClockError GameClock :=
  d.check.map fun _ => ⟨id, version, d⟩

def isRunning (c : GameClock) : Bool := c.fields.status == .running

def remainingAt (c : GameClock) (now : Int) : Int :=
  match c.fields.status, c.fields.startedAtMs with
  | .running, some startedAt => clampSeconds (c.fields.gameclock - elapsedSeconds startedAt now)
  | _, _ => c.fields.gameclock

def advance (c : GameClock) (fields : GameClockDraft) : GameClock :=
  ⟨c.id, c.version.next, fields⟩

def start (c : GameClock) (now : Int) : Except ClockError GameClock :=
  if c.isRunning then .error .alreadyRunning
  else if now < 0 then .error .negativeStart
  else .ok (c.advance { c.fields with status := .running, startedAtMs := some now })

def pause (c : GameClock) (now : Int) : Except ClockError GameClock :=
  if c.isRunning then
    .ok (c.advance
      { c.fields with gameclock := c.remainingAt now, status := .paused, startedAtMs := none })
  else .error .notRunning

def reset (c : GameClock) : GameClock :=
  c.advance (.full c.fields.matchId c.fields.gameclockMax)

/-- The fields with those of the patch; a clock set running without a start starts now. -/
def merged (c : GameClock) (p : GameClockPatch) (now : Int) : GameClockDraft :=
  let status := p.status.getD c.fields.status
  { matchId := c.fields.matchId
    gameclock := p.gameclock.getD c.fields.gameclock
    gameclockMax := p.gameclockMax.getD c.fields.gameclockMax
    status
    startedAtMs :=
      if status = .running then
        (p.startedAtMs.orElse fun _ => c.fields.startedAtMs).orElse fun _ => some now
      else p.startedAtMs }

def withPatch (c : GameClock) (p : GameClockPatch) (now : Int) : Except ClockError GameClock :=
  let d := c.merged p now
  d.check.map fun _ => c.advance d

end GameClock

end Matchday
