import Matchday.Service.Fixtures

set_option autoImplicit false

/-!
# The parts of a match as services

Scoreboards and clocks are found, created and deleted alike. A scoreboard is overwritten as it was
read. A clock's write is a transition: read the row, compare the caller's version with it, derive
the next row, and write that on condition that the row is still at the version that was read.
-/
namespace Matchday.Service

open Matchday

def getPart (p : Part) (id : Int) : Action p.Row := do
  let found ← Action.ask (Cause.ofPart p) (.ask (.find p id))
  Action.require (.missing p.table id) found

def getPartByMatch (p : Part) (matchId : Int) : Action p.Row := do
  let found ← Action.ask (Cause.ofPart p) (.ask (.findByMatch p matchId))
  Action.require (.missingPart p matchId) found

def createPart (p : Part) (draft : p.Draft) : Action p.Row := do
  let _ ← getFixture (p.draftOwner draft)
  let created ← Action.ask (Cause.ofPart p) (.ask (.insert p draft))
  Action.announce (.inserted p.table (p.rowId created) (some (p.ownerId created)))
  pure created

def deletePart (p : Part) (id : Int) : Action p.Row := do
  let removed ← Action.ask (Cause.ofPart p) (.ask (.delete p id))
  let row ← Action.require (.missing p.table id) removed
  Action.announce (.deleted p.table (p.rowId row) (some (p.ownerId row)))
  pure row

def createScoreboard (draft : ScoreboardDraft) : Action Scoreboard := do
  Action.ofExcept .invalidScoreboard draft.check
  createPart .scoreboard draft

def updateScoreboard (id : Int) (patch : ScoreboardPatch) : Action Scoreboard := do
  let current ← getPart .scoreboard id
  let next ← Action.ofExcept .invalidScoreboard (Scoreboard.withPatch current patch)
  let written ← Action.ask Cause.ofScoreboard (.ask (.updateScoreboard next))
  let saved ← Action.require (.missing .scoreboard id) written
  Action.announce (.updated .scoreboard saved.id (some saved.fields.matchId))
  pure saved

def checkVersion (k : ClockKind) (id : Int) (expected : Option Version) (current : Version) :
    Action Unit :=
  match expected with
  | some e =>
    if e = current then pure ()
    else Action.fail (.versionConflict k.part id e.number current.number)
  | none => pure ()

/-- Why a clock's write failed, where another write may have come first. -/
def causeOfWrite (k : ClockKind) (id : Int) (expected : Version) : ClockFault → Cause
  | .versionMismatch _ actual => .versionConflict k.part id expected.number actual
  | fault => Cause.ofClock k.part fault

def transition (k : ClockKind) (id : Int) (expected : Option Version)
    (step : k.Row → Except ClockError k.Row) : Action k.Row := do
  let current ← getPart k.part id
  checkVersion k id expected (k.version current)
  let next ← Action.ofExcept .clock (step current)
  let saved ← Action.ask (causeOfWrite k id (expected.getD (k.version current)))
    (.ask (.updateClock k next (k.version current)))
  Action.announce (.updated k.part.table (k.part.rowId saved) (some (k.part.ownerId saved)))
  pure saved

def timeMs : Action Int := do
  let now ← Action.time
  pure now.toMillis

/-- The draft, with the start of a running clock filled in. -/
def startedDraft (draft : GameClockDraft) : Action GameClockDraft :=
  if draft.status = .running ∧ draft.startedAtMs = none then do
    let now ← timeMs
    pure { draft with startedAtMs := some now }
  else pure draft

def createGameClock (draft : GameClockDraft) : Action GameClock := do
  let draft ← startedDraft draft
  Action.ofExcept .clock draft.check
  createPart .gameclock draft

def updateGameClock (id : Int) (patch : GameClockPatch) (expected : Option Version) :
    Action GameClock := do
  let now ← timeMs
  transition .game id expected fun c => GameClock.withPatch c patch now

def startGameClock (id : Int) (expected : Option Version) : Action GameClock := do
  let now ← timeMs
  transition .game id expected fun c => GameClock.start c now

def pauseGameClock (id : Int) (expected : Option Version) : Action GameClock := do
  let now ← timeMs
  transition .game id expected fun c => GameClock.pause c now

def resetGameClock (id : Int) (expected : Option Version) : Action GameClock :=
  transition .game id expected fun c => .ok (GameClock.reset c)

def createPlayClock (draft : PlayClockDraft) : Action PlayClock := do
  Action.ofExcept .clock draft.check
  createPart .playclock draft

def updatePlayClock (id : Int) (patch : PlayClockPatch) (expected : Option Version) :
    Action PlayClock :=
  transition .play id expected fun c => PlayClock.withPatch c patch

def startPlayClock (id : Int) (seconds : Int) (expected : Option Version) : Action PlayClock :=
  transition .play id expected fun c => PlayClock.start c seconds

def stopPlayClock (id : Int) (expected : Option Version) : Action PlayClock :=
  transition .play id expected fun c => .ok (PlayClock.stop c)

end Matchday.Service
