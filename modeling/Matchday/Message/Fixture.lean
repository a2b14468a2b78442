import Matchday.Fixture
import Matchday.Json.Codec
import Matchday.Time.Rfc3339

set_option autoImplicit false

namespace Matchday.Message

open Matchday
open Matchday.Json

structure CreateFixture where
  tournamentId : Option Int
  teamAId : Option Int
  teamBId : Option Int
  title : Option String
  week : Option Int
  matchDate : Option String
  deriving DecidableEq, Repr

def CreateFixture.record : Record CreateFixture where
  name := "CreateMatchRequest"
  fields :=
    .nullable "tournamentId" .i32 <|
    .nullable "teamAId" .i32 <|
    .nullable "teamBId" .i32 <|
    .nullable "title" .string <|
    .nullable "week" .i32 <|
    .nullable "matchDate" .string .nil
  toRow m := (m.tournamentId, m.teamAId, m.teamBId, m.title, m.week, m.matchDate, ())
  ofRow := fun (tournamentId, teamAId, teamBId, title, week, matchDate, _) =>
    ⟨tournamentId, teamAId, teamBId, title, week, matchDate⟩

structure UpdateFixture where
  tournamentId : Option Int
  teamAId : Option Int
  teamBId : Option Int
  title : Option String
  week : Option Int
  matchDate : Option String
  deriving DecidableEq, Repr

def UpdateFixture.record : Record UpdateFixture where
  name := "UpdateMatchRequest"
  fields :=
    .nullable "tournamentId" .i32 <|
    .nullable "teamAId" .i32 <|
    .nullable "teamBId" .i32 <|
    .nullable "title" .string <|
    .nullable "week" .i32 <|
    .nullable "matchDate" .string .nil
  toRow m := (m.tournamentId, m.teamAId, m.teamBId, m.title, m.week, m.matchDate, ())
  ofRow := fun (tournamentId, teamAId, teamBId, title, week, matchDate, _) =>
    ⟨tournamentId, teamAId, teamBId, title, week, matchDate⟩

structure FixtureView where
  id : Int
  tournamentId : Int
  teamAId : Int
  teamBId : Int
  title : String
  week : Int
  matchDate : Option String
  deriving DecidableEq, Repr

namespace FixtureView

def record : Record FixtureView where
  name := "MatchResponse"
  fields :=
    .required "id" .i32 <|
    .required "tournamentId" .i32 <|
    .required "teamAId" .i32 <|
    .required "teamBId" .i32 <|
    .required "title" .string <|
    .required "week" .i32 <|
    .nullable "matchDate" .string .nil
  toRow m := (m.id, m.tournamentId, m.teamAId, m.teamBId, m.title, m.week, m.matchDate, ())
  ofRow := fun (id, tournamentId, teamAId, teamBId, title, week, matchDate, _) =>
    ⟨id, tournamentId, teamAId, teamBId, title, week, matchDate⟩

def ofFixture (m : Fixture) : FixtureView where
  id := m.id
  tournamentId := m.fields.tournamentId
  teamAId := m.fields.teamAId
  teamBId := m.fields.teamBId
  title := m.fields.title
  week := m.fields.week
  matchDate := m.fields.matchDate.map Rfc3339.render

end FixtureView

end Matchday.Message
