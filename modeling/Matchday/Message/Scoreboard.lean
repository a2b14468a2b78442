import Matchday.Json.Codec
import Matchday.Scoreboard

set_option autoImplicit false

namespace Matchday.Message

open Matchday
open Matchday.Json

structure CreateScoreboard where
  matchId : Option Int
  scoreTeamA : Option Int
  scoreTeamB : Option Int
  period : Option Int
  isFlag : Option Bool
  deriving DecidableEq, Repr

def CreateScoreboard.record : Record CreateScoreboard where
  name := "CreateScoreboardRequest"
  fields :=
    .nullable "matchId" .i32 <|
    .nullable "scoreTeamA" .i32 <|
    .nullable "scoreTeamB" .i32 <|
    .nullable "period" .i32 <|
    .nullable "isFlag" .bool .nil
  toRow m := (m.matchId, m.scoreTeamA, m.scoreTeamB, m.period, m.isFlag, ())
  ofRow := fun (matchId, scoreTeamA, scoreTeamB, period, isFlag, _) =>
    ⟨matchId, scoreTeamA, scoreTeamB, period, isFlag⟩

structure UpdateScoreboard where
  scoreTeamA : Option Int
  scoreTeamB : Option Int
  period : Option Int
  isFlag : Option Bool
  deriving DecidableEq, Repr

def UpdateScoreboard.record : Record UpdateScoreboard where
  name := "UpdateScoreboardRequest"
  fields :=
    .nullable "scoreTeamA" .i32 <|
    .nullable "scoreTeamB" .i32 <|
    .nullable "period" .i32 <|
    .nullable "isFlag" .bool .nil
  toRow m := (m.scoreTeamA, m.scoreTeamB, m.period, m.isFlag, ())
  ofRow := fun (scoreTeamA, scoreTeamB, period, isFlag, _) => ⟨scoreTeamA, scoreTeamB, period, isFlag⟩

structure ScoreboardView where
  id : Int
  matchId : Int
  scoreTeamA : Int
  scoreTeamB : Int
  period : Int
  isFlag : Bool
  deriving DecidableEq, Repr

namespace ScoreboardView

def record : Record ScoreboardView where
  name := "ScoreboardResponse"
  fields :=
    .required "id" .i32 <|
    .required "matchId" .i32 <|
    .required "scoreTeamA" .i32 <|
    .required "scoreTeamB" .i32 <|
    .required "period" .i32 <|
    .required "isFlag" .bool .nil
  toRow m := (m.id, m.matchId, m.scoreTeamA, m.scoreTeamB, m.period, m.isFlag, ())
  ofRow := fun (id, matchId, scoreTeamA, scoreTeamB, period, isFlag, _) =>
    ⟨id, matchId, scoreTeamA, scoreTeamB, period, isFlag⟩

def ofScoreboard (s : Scoreboard) : ScoreboardView where
  id := s.id
  matchId := s.fields.matchId
  scoreTeamA := s.fields.scoreTeamA
  scoreTeamB := s.fields.scoreTeamB
  period := s.fields.period
  isFlag := s.fields.isFlag

end ScoreboardView

end Matchday.Message
