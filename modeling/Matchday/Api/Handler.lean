import Matchday.Api.Endpoint
import Matchday.Api.Field
import Matchday.Api.Input
import Matchday.Message.Fixture
import Matchday.Message.GameClock
import Matchday.Message.PlayClock
import Matchday.Message.Scoreboard
import Matchday.Message.Throttle
import Matchday.Service.Parts
import Matchday.Service.Throttle
import Matchday.TraceId

set_option autoImplicit false

namespace Matchday.Api

open Matchday
open Matchday.Http
open Matchday.Message

inductive Reply
  | shown (value : Json)
  | created (value : Json)
  | gone
  deriving Repr

def Reply.response : Reply → Response
  | .shown value => .of 200 (.json value)
  | .created value => .of 201 (.json value)
  | .gone => .empty 204

/-- A program that ends in a value or in a refusal. -/
abbrev Handler := ExceptT Refusal Prog

namespace Handler

variable {α : Type}

def ofInput (r : Except Refusal α) : Handler α := ExceptT.mk (.done r)

def ofAction (a : Action α) : Handler α :=
  ExceptT.mk (a.run.bind fun r => .done (r.mapError fun c => .failure c.failure))

end Handler

namespace Reading

def fixtureDraft (m : CreateFixture) : Except Refusal FixtureDraft := do
  let tournamentId ← Field.require "tournamentId" m.tournamentId
  let teamAId ← Field.require "teamAId" m.teamAId
  let teamBId ← Field.require "teamBId" m.teamBId
  let title ← Field.require "title" m.title
  let matchDate ← Field.optional (Field.timestamp "matchDate") m.matchDate
  pure ⟨tournamentId, teamAId, teamBId, title, m.week.getD 0, matchDate⟩

def fixturePatch (m : UpdateFixture) : Except Refusal FixturePatch := do
  let matchDate ← Field.optional (Field.timestamp "matchDate") m.matchDate
  pure ⟨m.tournamentId, m.teamAId, m.teamBId, m.title, m.week, matchDate⟩

def scoreboardDraft (m : CreateScoreboard) : Except Refusal ScoreboardDraft := do
  let matchId ← Field.require "matchId" m.matchId
  let kickoff := ScoreboardDraft.kickoff matchId
  pure
    { matchId
      scoreTeamA := m.scoreTeamA.getD kickoff.scoreTeamA
      scoreTeamB := m.scoreTeamB.getD kickoff.scoreTeamB
      period := m.period.getD kickoff.period
      isFlag := m.isFlag.getD kickoff.isFlag }

def scoreboardPatch (m : UpdateScoreboard) : ScoreboardPatch :=
  ⟨m.scoreTeamA, m.scoreTeamB, m.period, m.isFlag⟩

def gameClockDraft (m : CreateGameClock) : Except Refusal GameClockDraft := do
  let matchId ← Field.require "matchId" m.matchId
  let gameclockMax ← Field.require "gameclockMax" m.gameclockMax
  let full := GameClockDraft.full matchId gameclockMax
  let status ← Field.optional Field.status m.status
  pure { full with gameclock := m.gameclock.getD full.gameclock, status := status.getD .stopped }

def gameClockPatch (m : UpdateGameClock) : Except Refusal (GameClockPatch × Option Version) := do
  let status ← Field.optional Field.status m.status
  let expected ← Field.optional Field.expectedVersion m.expectedVersion
  pure (⟨m.gameclock, m.gameclockMax, status, m.startedAtMs⟩, expected)

def playClockDraft (m : CreatePlayClock) : Except Refusal PlayClockDraft := do
  let matchId ← Field.require "matchId" m.matchId
  let status ← Field.optional Field.status m.status
  pure ⟨matchId, m.playclock, status.getD .stopped⟩

def playClockPatch (m : UpdatePlayClock) : Except Refusal (PlayClockPatch × Option Version) := do
  let status ← Field.optional Field.status m.status
  let expected ← Field.optional Field.expectedVersion m.expectedVersion
  pure (⟨m.playclock, status⟩, expected)

def playClockStart (m : StartPlayClock) : Except Refusal (Int × Option Version) := do
  let seconds ← Field.require "seconds" m.seconds
  let expected ← Field.optional Field.expectedVersion m.expectedVersion
  pure (seconds, expected)

def transition (r : Request) : Except Refusal (Option Version) := do
  let m ← Input.optionalMessage ClockTransition.record.codec .unconditional r
  Field.optional Field.expectedVersion m.expectedVersion

def notificationTime (r : Request) : Except Refusal (Option Instant) := do
  let m ← Input.optionalMessage TouchThrottle.record.codec .now r
  Field.optional (Field.timestamp "lastNotifiedAt") m.lastNotifiedAt

end Reading

namespace Showing

def fixture (m : Fixture) : Json := FixtureView.record.encode (.ofFixture m)

def part : (p : Part) → p.Row → Json
  | .scoreboard, r => ScoreboardView.record.encode (.ofScoreboard r)
  | .gameclock, r => GameClockView.record.encode (.ofClock r)
  | .playclock, r => PlayClockView.record.encode (.ofClock r)

def throttle (r : ThrottleRecord) : Json := ThrottleView.record.encode (.ofRecord r)

def decision (d : ThrottleDecision) : Json := AcquireView.record.encode (.ofDecision d)

end Showing

open Handler in
def Creation.handle (c : Creation) (r : Request) : Handler Reply :=
  match c with
  | fixture => do
    let m ← ofInput (Input.message CreateFixture.record.codec r)
    let draft ← ofInput (Reading.fixtureDraft m)
    let row ← ofAction (Service.createFixture draft)
    pure (.created (Showing.fixture row))
  | part .scoreboard => do
    let m ← ofInput (Input.message CreateScoreboard.record.codec r)
    let draft ← ofInput (Reading.scoreboardDraft m)
    let row ← ofAction (Service.createScoreboard draft)
    pure (.created (Showing.part .scoreboard row))
  | part .gameclock => do
    let m ← ofInput (Input.message CreateGameClock.record.codec r)
    let draft ← ofInput (Reading.gameClockDraft m)
    let row ← ofAction (Service.createGameClock draft)
    pure (.created (Showing.part .gameclock row))
  | part .playclock => do
    let m ← ofInput (Input.message CreatePlayClock.record.codec r)
    let draft ← ofInput (Reading.playClockDraft m)
    let row ← ofAction (Service.createPlayClock draft)
    pure (.created (Showing.part .playclock row))

open Handler in
def updatePart (p : Part) (id : Int) (r : Request) : Handler p.Row :=
  match p with
  | .scoreboard => do
    let m ← ofInput (Input.message UpdateScoreboard.record.codec r)
    ofAction (Service.updateScoreboard id (Reading.scoreboardPatch m))
  | .gameclock => do
    let m ← ofInput (Input.message UpdateGameClock.record.codec r)
    let (patch, expected) ← ofInput (Reading.gameClockPatch m)
    ofAction (Service.updateGameClock id patch expected)
  | .playclock => do
    let m ← ofInput (Input.message UpdatePlayClock.record.codec r)
    let (patch, expected) ← ofInput (Reading.playClockPatch m)
    ofAction (Service.updatePlayClock id patch expected)

open Handler in
/-- Does what an endpoint does to what has an id; throttled notifications are `interval` apart. -/
def ItemAction.handle (interval : Duration) (a : ItemAction) (id : Int) (r : Request) :
    Handler Reply :=
  match a with
  | getFixture => do
    let row ← ofAction (Service.getFixture id)
    pure (.shown (Showing.fixture row))
  | updateFixture => do
    let m ← ofInput (Input.message UpdateFixture.record.codec r)
    let patch ← ofInput (Reading.fixturePatch m)
    let row ← ofAction (Service.updateFixture id patch)
    pure (.shown (Showing.fixture row))
  | deleteFixture => do
    let _ ← ofAction (Service.deleteFixture id)
    pure .gone
  | getPart p => do
    let row ← ofAction (Service.getPart p id)
    pure (.shown (Showing.part p row))
  | getPartOf p => do
    let row ← ofAction (Service.getPartByMatch p id)
    pure (.shown (Showing.part p row))
  | updatePart p => do
    let row ← Api.updatePart p id r
    pure (.shown (Showing.part p row))
  | deletePart p => do
    let _ ← ofAction (Service.deletePart p id)
    pure .gone
  | startClock .game => do
    let expected ← ofInput (Reading.transition r)
    let row ← ofAction (Service.startGameClock id expected)
    pure (.shown (Showing.part .gameclock row))
  | startClock .play => do
    let m ← ofInput (Input.message StartPlayClock.record.codec r)
    let (seconds, expected) ← ofInput (Reading.playClockStart m)
    let row ← ofAction (Service.startPlayClock id seconds expected)
    pure (.shown (Showing.part .playclock row))
  | pauseGameClock => do
    let expected ← ofInput (Reading.transition r)
    let row ← ofAction (Service.pauseGameClock id expected)
    pure (.shown (Showing.part .gameclock row))
  | resetGameClock => do
    let expected ← ofInput (Reading.transition r)
    let row ← ofAction (Service.resetGameClock id expected)
    pure (.shown (Showing.part .gameclock row))
  | stopPlayClock => do
    let expected ← ofInput (Reading.transition r)
    let row ← ofAction (Service.stopPlayClock id expected)
    pure (.shown (Showing.part .playclock row))
  | getThrottle => do
    let record ← ofAction (Service.getThrottle id)
    pure (.shown (Showing.throttle record))
  | touchThrottle => do
    let time ← ofInput (Reading.notificationTime r)
    let record ← ofAction (Service.touchThrottle id time)
    pure (.shown (Showing.throttle record))
  | acquireThrottle => do
    let decision ← ofAction (Service.acquireThrottle interval id)
    pure (.shown (Showing.decision decision))
  | clearThrottle => do
    ofAction (Service.clearThrottle id)
    pure .gone

def Route.handle (interval : Duration) (route : Route) (r : Request) : Handler Reply :=
  match route with
  | create c => c.handle r
  | item a segment => do
    let id ← Handler.ofInput (Input.id segment)
    a.handle interval id r

def Route.serve (interval : Duration) (scope : Option TraceId) (route : Route) (r : Request) :
    Prog Response :=
  (route.handle interval r).run.bind fun result =>
    .done
      (match result with
      | .ok reply => reply.response
      | .error refusal => (refusal.traced scope).response)

end Matchday.Api
