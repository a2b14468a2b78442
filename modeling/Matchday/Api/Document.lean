import Matchday.Api.Endpoint
import Matchday.Message.Failure
import Matchday.Message.Fixture
import Matchday.Message.GameClock
import Matchday.Message.PlayClock
import Matchday.Message.Scoreboard
import Matchday.Message.Throttle

set_option autoImplicit false

namespace Matchday.Api

open Matchday
open Matchday.Http
open Matchday.Json
open Matchday.Message

structure Entry where
  name : String
  tag : String
  responses : List (Nat × String)
  deriving DecidableEq, Repr

def partWords : Part → String × String
  | .scoreboard => ("Scoreboard", "scoreboard")
  | .gameclock => ("GameClock", "game clock")
  | .playclock => ("PlayClock", "play clock")

def partTitle : Part → String
  | .scoreboard => "Scoreboard"
  | .gameclock => "Game clock"
  | .playclock => "Play clock"

def Creation.entry : Creation → Entry
  | fixture =>
    ⟨"createMatch", fixtures,
      [(201, "Match created"), (400, "Invalid request"), (503, "Service unavailable")]⟩
  | part p =>
    ⟨"create" ++ (partWords p).1, partCollection p,
      [(201, partTitle p ++ " created"), (400, "Invalid request"), (404, "Match not found"),
        (409, "Match already has a " ++ (partWords p).2)]⟩

namespace ItemAction

def updateResponses (p : Part) : List (Nat × String) :=
  [(200, "Updated " ++ (partWords p).2), (400, "Invalid request"), (404, "Not found")] ++
    match p with
    | .scoreboard => []
    | _ => [(409, "Version conflict")]

def transitionResponses (done conflict : String) : List (Nat × String) :=
  [(200, done), (404, "Not found"), (409, conflict)]

def entry : ItemAction → Entry
  | getFixture => ⟨"getMatch", fixtures, [(200, "Match"), (404, "Not found")]⟩
  | updateFixture =>
    ⟨"updateMatch", fixtures, [(200, "Updated match"), (400, "Invalid request"), (404, "Not found")]⟩
  | deleteFixture => ⟨"deleteMatch", fixtures, [(204, "Match deleted"), (404, "Not found")]⟩
  | getPart p =>
    ⟨"get" ++ (partWords p).1, partCollection p, [(200, partTitle p), (404, "Not found")]⟩
  | getPartOf p =>
    ⟨"getMatch" ++ (partWords p).1, partCollection p, [(200, partTitle p), (404, "Not found")]⟩
  | updatePart p => ⟨"update" ++ (partWords p).1, partCollection p, updateResponses p⟩
  | deletePart p =>
    ⟨"delete" ++ (partWords p).1, partCollection p,
      [(204, partTitle p ++ " deleted"), (404, "Not found")]⟩
  | startClock .game =>
    ⟨"startGameClock", partCollection .gameclock,
      transitionResponses "Running game clock" "Already running or version conflict"⟩
  | startClock .play =>
    ⟨"startPlayClock", partCollection .playclock,
      [(200, "Running play clock"), (400, "Seconds out of range"), (404, "Not found"),
        (409, "Version conflict")]⟩
  | pauseGameClock =>
    ⟨"pauseGameClock", partCollection .gameclock,
      transitionResponses "Paused game clock" "Not running or version conflict"⟩
  | resetGameClock =>
    ⟨"resetGameClock", partCollection .gameclock,
      transitionResponses "Reset game clock" "Version conflict"⟩
  | stopPlayClock =>
    ⟨"stopPlayClock", partCollection .playclock,
      transitionResponses "Stopped play clock" "Version conflict"⟩
  | getThrottle =>
    ⟨"getStatsThrottle", "stats-throttle", [(200, "Throttle entry"), (404, "No entry")]⟩
  | touchThrottle =>
    ⟨"touchStatsThrottle", "stats-throttle", [(200, "Entry written"), (400, "Invalid request")]⟩
  | acquireThrottle =>
    ⟨"acquireStatsThrottle", "stats-throttle",
      [(200, "Throttle decision"), (503, "Service unavailable")]⟩
  | clearThrottle =>
    ⟨"clearStatsThrottle", "stats-throttle", [(204, "Entry removed"), (404, "No entry")]⟩

end ItemAction

namespace Document

def written (path : List String) : String := "/" ++ "/".intercalate path

def entries : List (Method × String × Entry) :=
  (Creation.all.map fun c => (Method.post, written c.path, c.entry)) ++
    (ItemAction.all.map fun a => (a.method, written (a.path "\x7bid\x7d"), a.entry)) ++
    [(.get, "/health/ready",
        ⟨"ready", "health",
          [(200, "Server is ready to handle traffic"), (503, "Server is not ready")]⟩),
      (.get, "/health/live",
        ⟨"live", "health", [(200, "Server is alive"), (503, "Server is shutting down")]⟩)]

def entry? (method path : String) : Option Entry :=
  (entries.find? fun (m, p, _) => m.name.toLower == method && p == path).map fun e => e.2.2

structure Schema where
  properties : List String
  required : List String
  variants : List String
  deriving DecidableEq, Repr

def sorted (names : List String) : List String := names.mergeSort fun a b => decide (a ≤ b)

def ofRecord {α : Type} (r : Record α) : Schema :=
  ⟨sorted r.fields.names, sorted r.fields.requiredNames, []⟩

def schemas : List (String × Schema) :=
  [("crate.domain.Error", ofRecord Failure.record),
    ("crate.domain.ErrorCode", ⟨[], [], sorted (FailureCode.all.map FailureCode.name)⟩),
    (CreateFixture.record.name, ofRecord CreateFixture.record),
    (UpdateFixture.record.name, ofRecord UpdateFixture.record),
    (FixtureView.record.name, ofRecord FixtureView.record),
    (CreateScoreboard.record.name, ofRecord CreateScoreboard.record),
    (UpdateScoreboard.record.name, ofRecord UpdateScoreboard.record),
    (ScoreboardView.record.name, ofRecord ScoreboardView.record),
    (CreateGameClock.record.name, ofRecord CreateGameClock.record),
    (UpdateGameClock.record.name, ofRecord UpdateGameClock.record),
    (ClockTransition.record.name, ofRecord ClockTransition.record),
    (GameClockView.record.name, ofRecord GameClockView.record),
    (CreatePlayClock.record.name, ofRecord CreatePlayClock.record),
    (UpdatePlayClock.record.name, ofRecord UpdatePlayClock.record),
    (StartPlayClock.record.name, ofRecord StartPlayClock.record),
    (PlayClockView.record.name, ofRecord PlayClockView.record),
    (TouchThrottle.record.name, ofRecord TouchThrottle.record),
    (ThrottleView.record.name, ofRecord ThrottleView.record),
    (AcquireView.record.name, ofRecord AcquireView.record)]

def schema? (name : String) : Option Schema := schemas.lookup name

end Document

end Matchday.Api
