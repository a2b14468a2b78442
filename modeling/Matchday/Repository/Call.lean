import Matchday.Fixture
import Matchday.GameClock
import Matchday.PlayClock
import Matchday.Repository.Fault
import Matchday.Scoreboard
import Matchday.Throttle

set_option autoImplicit false

/-!
# Repository calls

A `Call` is one question to the row store and `Answer` is the type of what comes back. Each call is
one atomic step of whoever answers it.
-/
namespace Matchday

namespace Part

abbrev Row : Part → Type
  | scoreboard => Scoreboard
  | gameclock => GameClock
  | playclock => PlayClock

abbrev Draft : Part → Type
  | scoreboard => ScoreboardDraft
  | gameclock => GameClockDraft
  | playclock => PlayClockDraft

abbrev Fault : Part → Type
  | scoreboard => ScoreboardFault
  | gameclock => ClockFault
  | playclock => ClockFault

def rowId : (p : Part) → p.Row → Int
  | scoreboard, r => r.id
  | gameclock, r => r.id
  | playclock, r => r.id

def ownerId : (p : Part) → p.Row → Int
  | scoreboard, r => r.fields.matchId
  | gameclock, r => r.fields.matchId
  | playclock, r => r.fields.matchId

def draftOwner : (p : Part) → p.Draft → Int
  | scoreboard, d => d.matchId
  | gameclock, d => d.matchId
  | playclock, d => d.matchId

def make : (p : Part) → Int → p.Draft → Except String p.Row
  | scoreboard, id, d => (Scoreboard.make id d).mapError ScoreboardError.message
  | gameclock, id, d => (GameClock.make id .initial d).mapError ClockError.message
  | playclock, id, d => (PlayClock.make id .initial d).mapError ClockError.message

def access : (p : Part) → AccessFault → p.Fault
  | scoreboard, f => .access f
  | gameclock, f => .access f
  | playclock, f => .access f

def unknownMatch : (p : Part) → Int → p.Fault
  | scoreboard, id => .unknownMatch id
  | gameclock, id => .unknownMatch id
  | playclock, id => .unknownMatch id

def duplicate : (p : Part) → Int → p.Fault
  | scoreboard, id => .duplicate id
  | gameclock, id => .duplicate id
  | playclock, id => .duplicate id

end Part

/-- The parts whose rows carry a version. -/
inductive ClockKind
  | game
  | play
  deriving DecidableEq, Repr

namespace ClockKind

abbrev part : ClockKind → Part
  | game => .gameclock
  | play => .playclock

abbrev Row (k : ClockKind) : Type := k.part.Row

def version : (k : ClockKind) → k.Row → Version
  | game, r => r.version
  | play, r => r.version

end ClockKind

/-- A deleted fixture and the ids of the rows that went with it. -/
structure Removal where
  fixture : Fixture
  scoreboardIds : List Int
  gameclockIds : List Int
  playclockIds : List Int
  deriving DecidableEq, Repr

/-- The rows that went, those of the parts before the match. -/
def Removal.changes (r : Removal) : List RowChange :=
  let owner := some r.fixture.id
  r.scoreboardIds.map (RowChange.deleted .scoreboard · owner)
    ++ r.gameclockIds.map (RowChange.deleted .gameclock · owner)
    ++ r.playclockIds.map (RowChange.deleted .playclock · owner)
    ++ [RowChange.deleted .fixture r.fixture.id none]

inductive Call
  | findFixture (id : Int)
  | insertFixture (fields : FixtureDraft)
  | updateFixture (row : Fixture)
  | deleteFixture (id : Int)
  | find (p : Part) (id : Int)
  | findByMatch (p : Part) (matchId : Int)
  | insert (p : Part) (draft : p.Draft)
  | updateScoreboard (row : Scoreboard)
  | updateClock (k : ClockKind) (row : k.Row) (previous : Version)
  | delete (p : Part) (id : Int)
  | findThrottle (matchId : Int)
  | touchThrottle (matchId : Int) (time : Option Instant)
  | deleteThrottle (matchId : Int)

abbrev Answer : Call → Type
  | .findFixture _ => Except AccessFault (Option Fixture)
  | .insertFixture _ => Except AccessFault Fixture
  | .updateFixture _ => Except AccessFault (Option Fixture)
  | .deleteFixture _ => Except AccessFault (Option Removal)
  | .find p _ => Except p.Fault (Option p.Row)
  | .findByMatch p _ => Except p.Fault (Option p.Row)
  | .insert p _ => Except p.Fault p.Row
  | .updateScoreboard _ => Except ScoreboardFault (Option Scoreboard)
  | .updateClock k _ _ => Except ClockFault k.Row
  | .delete p _ => Except p.Fault (Option p.Row)
  | .findThrottle _ => Except AccessFault (Option ThrottleRecord)
  | .touchThrottle _ _ => Except AccessFault ThrottleRecord
  | .deleteThrottle _ => Except AccessFault Bool

/-- Who answers calls: given its state and the time, an answer and the state after it. -/
structure Storage (σ : Type) where
  answer : σ → Instant → (c : Call) → Answer c × σ

end Matchday
