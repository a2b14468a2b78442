set_option autoImplicit false

namespace Matchday

structure ScoreboardDraft where
  matchId : Int
  scoreTeamA : Int
  scoreTeamB : Int
  period : Int
  isFlag : Bool
  deriving DecidableEq, Repr

inductive ScoreboardError
  | negativeScore
  | invalidPeriod
  deriving DecidableEq, Repr

def ScoreboardError.message : ScoreboardError → String
  | .negativeScore => "scores must be zero or greater"
  | .invalidPeriod => "period must be at least 1"

namespace ScoreboardDraft

def kickoff (matchId : Int) : ScoreboardDraft := ⟨matchId, 0, 0, 1, false⟩

def check (d : ScoreboardDraft) : Except ScoreboardError Unit :=
  if d.scoreTeamA < 0 ∨ d.scoreTeamB < 0 then .error .negativeScore
  else if d.period < 1 then .error .invalidPeriod
  else .ok ()

end ScoreboardDraft

structure Scoreboard where
  id : Int
  fields : ScoreboardDraft
  deriving DecidableEq, Repr

structure ScoreboardPatch where
  scoreTeamA : Option Int := none
  scoreTeamB : Option Int := none
  period : Option Int := none
  isFlag : Option Bool := none
  deriving DecidableEq, Repr

namespace Scoreboard

def make (id : Int) (d : ScoreboardDraft) : Except ScoreboardError Scoreboard :=
  d.check.map fun _ => ⟨id, d⟩

def merged (s : Scoreboard) (p : ScoreboardPatch) : ScoreboardDraft where
  matchId := s.fields.matchId
  scoreTeamA := p.scoreTeamA.getD s.fields.scoreTeamA
  scoreTeamB := p.scoreTeamB.getD s.fields.scoreTeamB
  period := p.period.getD s.fields.period
  isFlag := p.isFlag.getD s.fields.isFlag

def withPatch (s : Scoreboard) (p : ScoreboardPatch) : Except ScoreboardError Scoreboard :=
  make s.id (s.merged p)

end Scoreboard

end Matchday
