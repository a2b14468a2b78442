import Matchday.Clock
import Matchday.Version

set_option autoImplicit false

namespace Matchday

structure PlayClockDraft where
  matchId : Int
  playclock : Option Int
  status : ClockStatus
  deriving DecidableEq, Repr

def PlayClockDraft.check (d : PlayClockDraft) : Except ClockError Unit :=
  match d.playclock with
  | some seconds =>
    if seconds < 0 ∨ playclockLimit < seconds then .error (.playclockOutOfRange seconds) else .ok ()
  | none => .ok ()

structure PlayClock where
  id : Int
  version : Version
  fields : PlayClockDraft
  deriving DecidableEq, Repr

structure PlayClockPatch where
  playclock : Option Int := none
  status : Option ClockStatus := none
  deriving DecidableEq, Repr

namespace PlayClock

def make (id : Int) (version : Version) (d : PlayClockDraft) : Except ClockError PlayClock :=
  d.check.map fun _ => ⟨id, version, d⟩

def advance (c : PlayClock) (fields : PlayClockDraft) : PlayClock :=
  ⟨c.id, c.version.next, fields⟩

def start (c : PlayClock) (seconds : Int) : Except ClockError PlayClock :=
  if seconds < 1 ∨ playclockLimit < seconds then .error (.playclockOutOfRange seconds)
  else .ok (c.advance ⟨c.fields.matchId, some seconds, .running⟩)

def stop (c : PlayClock) : PlayClock := c.advance ⟨c.fields.matchId, none, .stopped⟩

def merged (c : PlayClock) (p : PlayClockPatch) : PlayClockDraft where
  matchId := c.fields.matchId
  playclock := p.playclock.orElse fun _ => c.fields.playclock
  status := p.status.getD c.fields.status

def withPatch (c : PlayClock) (p : PlayClockPatch) : Except ClockError PlayClock :=
  let d := c.merged p
  d.check.map fun _ => c.advance d

end PlayClock

end Matchday
