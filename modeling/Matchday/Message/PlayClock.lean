import Matchday.Message.Clock
import Matchday.PlayClock

set_option autoImplicit false

namespace Matchday.Message

open Matchday
open Matchday.Json

structure CreatePlayClock where
  matchId : Option Int
  playclock : Option Int
  status : Option String
  deriving DecidableEq, Repr

def CreatePlayClock.record : Record CreatePlayClock where
  name := "CreatePlayClockRequest"
  fields :=
    .nullable "matchId" .i32 <|
    .nullable "playclock" .i32 <|
    .nullable "status" .string .nil
  toRow m := (m.matchId, m.playclock, m.status, ())
  ofRow := fun (matchId, playclock, status, _) => ⟨matchId, playclock, status⟩

structure UpdatePlayClock where
  playclock : Option Int
  status : Option String
  expectedVersion : Option Int
  deriving DecidableEq, Repr

def UpdatePlayClock.record : Record UpdatePlayClock where
  name := "UpdatePlayClockRequest"
  fields :=
    .nullable "playclock" .i32 <|
    .nullable "status" .string <|
    .nullable "expectedVersion" .u32 .nil
  toRow m := (m.playclock, m.status, m.expectedVersion, ())
  ofRow := fun (playclock, status, expectedVersion, _) => ⟨playclock, status, expectedVersion⟩

structure StartPlayClock where
  seconds : Option Int
  expectedVersion : Option Int
  deriving DecidableEq, Repr

def StartPlayClock.record : Record StartPlayClock where
  name := "StartPlayClockRequest"
  fields :=
    .nullable "seconds" .i32 <|
    .nullable "expectedVersion" .u32 .nil
  toRow m := (m.seconds, m.expectedVersion, ())
  ofRow := fun (seconds, expectedVersion, _) => ⟨seconds, expectedVersion⟩

structure PlayClockView where
  id : Int
  matchId : Int
  playclock : Option Int
  status : String
  version : Int
  deriving DecidableEq, Repr

namespace PlayClockView

def record : Record PlayClockView where
  name := "PlayClockResponse"
  fields :=
    .required "id" .i32 <|
    .required "matchId" .i32 <|
    .nullable "playclock" .i32 <|
    .required "status" .string <|
    .required "version" .u32 .nil
  toRow m := (m.id, m.matchId, m.playclock, m.status, m.version, ())
  ofRow := fun (id, matchId, playclock, status, version, _) => ⟨id, matchId, playclock, status, version⟩

def ofClock (c : PlayClock) : PlayClockView where
  id := c.id
  matchId := c.fields.matchId
  playclock := c.fields.playclock
  status := c.fields.status.name
  version := c.version.number

end PlayClockView

end Matchday.Message
