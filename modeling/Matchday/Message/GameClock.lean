import Matchday.GameClock
import Matchday.Message.Clock

set_option autoImplicit false

namespace Matchday.Message

open Matchday
open Matchday.Json

structure CreateGameClock where
  matchId : Option Int
  gameclockMax : Option Int
  gameclock : Option Int
  status : Option String
  deriving DecidableEq, Repr

def CreateGameClock.record : Record CreateGameClock where
  name := "CreateGameClockRequest"
  fields :=
    .nullable "matchId" .i32 <|
    .nullable "gameclockMax" .i32 <|
    .nullable "gameclock" .i32 <|
    .nullable "status" .string .nil
  toRow m := (m.matchId, m.gameclockMax, m.gameclock, m.status, ())
  ofRow := fun (matchId, gameclockMax, gameclock, status, _) =>
    ⟨matchId, gameclockMax, gameclock, status⟩

structure UpdateGameClock where
  gameclock : Option Int
  gameclockMax : Option Int
  status : Option String
  startedAtMs : Option Int
  expectedVersion : Option Int
  deriving DecidableEq, Repr

def UpdateGameClock.record : Record UpdateGameClock where
  name := "UpdateGameClockRequest"
  fields :=
    .nullable "gameclock" .i32 <|
    .nullable "gameclockMax" .i32 <|
    .nullable "status" .string <|
    .nullable "startedAtMs" .i64 <|
    .nullable "expectedVersion" .u32 .nil
  toRow m := (m.gameclock, m.gameclockMax, m.status, m.startedAtMs, m.expectedVersion, ())
  ofRow := fun (gameclock, gameclockMax, status, startedAtMs, expectedVersion, _) =>
    ⟨gameclock, gameclockMax, status, startedAtMs, expectedVersion⟩

structure GameClockView where
  id : Int
  matchId : Int
  gameclock : Int
  gameclockMax : Int
  status : String
  startedAtMs : Option Int
  version : Int
  deriving DecidableEq, Repr

namespace GameClockView

def record : Record GameClockView where
  name := "GameClockResponse"
  fields :=
    .required "id" .i32 <|
    .required "matchId" .i32 <|
    .required "gameclock" .i32 <|
    .required "gameclockMax" .i32 <|
    .required "status" .string <|
    .nullable "startedAtMs" .i64 <|
    .required "version" .u32 .nil
  toRow m :=
    (m.id, m.matchId, m.gameclock, m.gameclockMax, m.status, m.startedAtMs, m.version, ())
  ofRow := fun (id, matchId, gameclock, gameclockMax, status, startedAtMs, version, _) =>
    ⟨id, matchId, gameclock, gameclockMax, status, startedAtMs, version⟩

def ofClock (c : GameClock) : GameClockView where
  id := c.id
  matchId := c.fields.matchId
  gameclock := c.fields.gameclock
  gameclockMax := c.fields.gameclockMax
  status := c.fields.status.name
  startedAtMs := c.fields.startedAtMs
  version := c.version.number

end GameClockView

end Matchday.Message
