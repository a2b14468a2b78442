import Matchday.Repository.Call
import Matchday.Store.Table

set_option autoImplicit false

namespace Matchday

structure Store where
  fixtures : Numbered Fixture
  scoreboards : Numbered Scoreboard
  gameclocks : Numbered GameClock
  playclocks : Numbered PlayClock
  throttle : Table ThrottleRecord
  deriving DecidableEq, Repr

namespace Store

def empty : Store := ⟨.empty, .empty, .empty, .empty, .empty⟩

def part (s : Store) : (p : Part) → Numbered p.Row
  | .scoreboard => s.scoreboards
  | .gameclock => s.gameclocks
  | .playclock => s.playclocks

def setPart (s : Store) : (p : Part) → Numbered p.Row → Store
  | .scoreboard, t => { s with scoreboards := t }
  | .gameclock, t => { s with gameclocks := t }
  | .playclock, t => { s with playclocks := t }

def exhausted (r : Repository) : AccessFault :=
  .query s!"{r.name} sequence reached its maximum value"

def insertFixture (s : Store) (fields : FixtureDraft) : Except AccessFault Fixture × Store :=
  match s.fixtures.nextId? with
  | none => (.error (exhausted .fixture), s)
  | some id =>
    let row : Fixture := ⟨id, fields⟩
    (.ok row, { s with fixtures := ⟨s.fixtures.rows.insert id row, id⟩ })

def updateFixture (s : Store) (row : Fixture) : Option Fixture × Store :=
  if s.fixtures.rows.contains row.id then
    (some row, { s with fixtures.rows := s.fixtures.rows.insert row.id row })
  else (none, s)

def ownedIds (s : Store) (p : Part) (matchId : Int) : List Int :=
  (s.part p).rows.keysWhere fun r => p.ownerId r == matchId

def dropOwned (s : Store) (p : Part) (matchId : Int) : Store :=
  s.setPart p { s.part p with rows := (s.part p).rows.without fun r => p.ownerId r == matchId }

def deleteFixture (s : Store) (id : Int) : Option Removal × Store :=
  match s.fixtures.rows.get? id with
  | none => (none, s)
  | some row =>
    (some ⟨row, s.ownedIds .scoreboard id, s.ownedIds .gameclock id, s.ownedIds .playclock id⟩,
      ((({ s with fixtures.rows := s.fixtures.rows.erase id }).dropOwned .scoreboard id).dropOwned
        .gameclock id).dropOwned .playclock id)

def findPart (s : Store) (p : Part) (id : Int) : Option p.Row := (s.part p).rows.get? id

def findPartByMatch (s : Store) (p : Part) (matchId : Int) : Option p.Row :=
  (s.part p).rows.find? fun r => p.ownerId r == matchId

def insertPart (s : Store) (p : Part) (draft : p.Draft) : Except p.Fault p.Row × Store :=
  let owner := p.draftOwner draft
  if !s.fixtures.rows.contains owner then (.error (p.unknownMatch owner), s)
  else if (s.findPartByMatch p owner).isSome then (.error (p.duplicate owner), s)
  else
    match (s.part p).nextId? with
    | none => (.error (p.access (exhausted p.repository)), s)
    | some id =>
      match p.make id draft with
      | .error message =>
        (.error (p.access (.query message)), s.setPart p { s.part p with last := id })
      | .ok row => (.ok row, s.setPart p ⟨(s.part p).rows.insert id row, id⟩)

def deletePart (s : Store) (p : Part) (id : Int) : Option p.Row × Store :=
  match s.findPart p id with
  | none => (none, s)
  | some row => (some row, s.setPart p { s.part p with rows := (s.part p).rows.erase id })

def putPart (s : Store) (p : Part) (row : p.Row) : Store :=
  s.setPart p { s.part p with rows := (s.part p).rows.insert (p.rowId row) row }

def updateScoreboard (s : Store) (row : Scoreboard) : Option Scoreboard × Store :=
  if s.scoreboards.rows.contains row.id then (some row, s.putPart .scoreboard row) else (none, s)

/-- Overwrites a clock that is still at the version from which the new row was made. -/
def updateClock (s : Store) (k : ClockKind) (row : k.Row) (previous : Version) :
    Except ClockFault k.Row × Store :=
  let id := k.part.rowId row
  match s.findPart k.part id with
  | none => (.error (.notFound id), s)
  | some stored =>
    let actual := k.version stored
    if actual = previous then (.ok row, s.putPart k.part row)
    else (.error (.versionMismatch previous.number actual.number), s)

def touchThrottle (s : Store) (matchId : Int) (time : Instant) : ThrottleRecord × Store :=
  let record : ThrottleRecord := ⟨matchId, time⟩
  (record, { s with throttle := s.throttle.insert matchId record })

def deleteThrottle (s : Store) (matchId : Int) : Bool × Store :=
  (s.throttle.contains matchId, { s with throttle := s.throttle.erase matchId })

def answer (s : Store) (now : Instant) : (c : Call) → Answer c × Store
  | .findFixture id => (.ok (s.fixtures.rows.get? id), s)
  | .insertFixture fields => s.insertFixture fields
  | .updateFixture row => (s.updateFixture row).map .ok id
  | .deleteFixture id => (s.deleteFixture id).map .ok fun t => t
  | .find p id => (.ok (s.findPart p id), s)
  | .findByMatch p matchId => (.ok (s.findPartByMatch p matchId), s)
  | .insert p draft => s.insertPart p draft
  | .updateScoreboard row => (s.updateScoreboard row).map .ok id
  | .updateClock k row previous => s.updateClock k row previous
  | .delete p id => (s.deletePart p id).map .ok fun t => t
  | .findThrottle matchId => (.ok (s.throttle.get? matchId), s)
  | .touchThrottle matchId time => (s.touchThrottle matchId (time.getD now)).map .ok id
  | .deleteThrottle matchId => (s.deleteThrottle matchId).map .ok id

def storage : Storage Store := ⟨answer⟩

end Store

end Matchday
