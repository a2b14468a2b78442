import Matchday.Failure
import Matchday.Repository.Call

set_option autoImplicit false

namespace Matchday

inductive Cause
  | unreachable (r : Repository) (message : String)
  | brokenQuery (r : Repository) (message : String)
  | invalidFixture (e : FixtureError)
  | invalidScoreboard (e : ScoreboardError)
  | clock (e : ClockError)
  | missing (t : WatchedTable) (id : Int)
  | missingPart (p : Part) (matchId : Int)
  | missingEntry (matchId : Int)
  | occupied (p : Part) (matchId : Int)
  | versionConflict (p : Part) (id : Int) (expected actual : Nat)
  | versionMismatch (p : Part) (expected actual : Nat)
  deriving DecidableEq, Repr

namespace Cause

def versions (expected actual : Nat) : Json :=
  .obj [("actualVersion", .int actual), ("expectedVersion", .int expected)]

def failure : Cause → Failure
  | unreachable r message =>
    { code := .serviceUnavailable, message := s!"{r.name} repository unavailable: {message}" }
  | brokenQuery r message =>
    { code := .internalError, message := s!"{r.name} repository error: {message}" }
  | invalidFixture e => { code := .invalidRequest, message := s!"invalid match: {e.message}" }
  | invalidScoreboard e => { code := .invalidRequest, message := s!"invalid scoreboard: {e.message}" }
  | clock e => { code := if e.isConflict then .conflict else .invalidRequest, message := e.message }
  | missing t id => { code := .notFound, message := s!"{t.name} {id} not found" }
  | missingPart p matchId => { code := .notFound, message := s!"match {matchId} has no {p.name}" }
  | missingEntry matchId =>
    { code := .notFound, message := s!"no throttle entry for match {matchId}" }
  | occupied p matchId =>
    { code := .conflict, message := s!"match {matchId} already has a {p.name}" }
  | versionConflict p id expected actual =>
    { code := .conflict
      message := s!"{p.name} {id} is at version {actual}, not {expected}"
      details := some (versions expected actual) }
  | versionMismatch p expected actual =>
    { code := .conflict
      message := s!"{p.name} version mismatch: expected {expected}, found {actual}"
      details := some (versions expected actual) }

def ofAccess (r : Repository) : AccessFault → Cause
  | .connection message => unreachable r message
  | .query message => brokenQuery r message

def ofScoreboard : ScoreboardFault → Cause
  | .access fault => ofAccess .scoreboard fault
  | .unknownMatch matchId => missing .fixture matchId
  | .duplicate matchId => occupied .scoreboard matchId

def ofClock (p : Part) : ClockFault → Cause
  | .access fault => ofAccess p.repository fault
  | .unknownMatch matchId => missing .fixture matchId
  | .duplicate matchId => occupied p matchId
  | .notFound id => missing p.table id
  | .versionMismatch expected actual => versionMismatch p expected actual

def ofPart : (p : Part) → p.Fault → Cause
  | .scoreboard => ofScoreboard
  | .gameclock => ofClock .gameclock
  | .playclock => ofClock .playclock

end Cause

end Matchday
