import Matchday.Change

set_option autoImplicit false

namespace Matchday

inductive Repository
  | fixture
  | scoreboard
  | gameclock
  | playclock
  | throttle
  deriving DecidableEq, Repr

namespace Repository

def all : List Repository := [fixture, scoreboard, gameclock, playclock, throttle]

def name : Repository → String
  | fixture => "match"
  | scoreboard => "scoreboard"
  | gameclock => "gameclock"
  | playclock => "playclock"
  | throttle => "throttle"

end Repository

/-- The kinds of row of which a match owns at most one. -/
inductive Part
  | scoreboard
  | gameclock
  | playclock
  deriving DecidableEq, Repr

namespace Part

def table : Part → WatchedTable
  | scoreboard => .scoreboard
  | gameclock => .gameclock
  | playclock => .playclock

def repository : Part → Repository
  | scoreboard => .scoreboard
  | gameclock => .gameclock
  | playclock => .playclock

def name (p : Part) : String := p.table.name

end Part

inductive AccessFault
  | connection (message : String)
  | query (message : String)
  deriving DecidableEq, Repr

def AccessFault.message (r : Repository) : AccessFault → String
  | connection message => s!"{r.name} repository connection failed: {message}"
  | query message => s!"{r.name} repository query failed: {message}"

inductive ScoreboardFault
  | access (fault : AccessFault)
  | unknownMatch (matchId : Int)
  | duplicate (matchId : Int)
  deriving DecidableEq, Repr

def ScoreboardFault.message : ScoreboardFault → String
  | access fault => fault.message .scoreboard
  | unknownMatch matchId => s!"match {matchId} does not exist"
  | duplicate matchId => s!"match {matchId} already has a scoreboard"

inductive ClockFault
  | access (fault : AccessFault)
  | unknownMatch (matchId : Int)
  | duplicate (matchId : Int)
  | notFound (id : Int)
  | versionMismatch (expected actual : Nat)
  deriving DecidableEq, Repr

def ClockFault.message (p : Part) : ClockFault → String
  | access fault => fault.message p.repository
  | unknownMatch matchId => s!"match {matchId} does not exist"
  | duplicate matchId => s!"match {matchId} already has a {p.name}"
  | notFound id => s!"{p.name} {id} not found"
  | versionMismatch expected actual =>
    s!"{p.name} version mismatch: expected {expected}, found {actual}"

end Matchday
