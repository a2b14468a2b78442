import Matchday.Text.Blank
import Matchday.Time.Instant

set_option autoImplicit false

namespace Matchday

structure FixtureDraft where
  tournamentId : Int
  teamAId : Int
  teamBId : Int
  title : String
  week : Int
  matchDate : Option Instant
  deriving DecidableEq, Repr

inductive FixtureError
  | emptyTitle
  | titleTooLong
  | sameTeams
  | negativeWeek
  deriving DecidableEq, Repr

def titleLimit : Nat := 128

def FixtureError.message : FixtureError → String
  | .emptyTitle => "match title must not be empty"
  | .titleTooLong => s!"match title must be at most {titleLimit} characters"
  | .sameTeams => "a match needs two distinct teams"
  | .negativeWeek => "week must be zero or greater"

/-- The draft with its title trimmed, if it describes a fixture. -/
def FixtureDraft.check (d : FixtureDraft) : Except FixtureError FixtureDraft :=
  let title := Text.trim d.title
  if title.isEmpty then .error .emptyTitle
  else if titleLimit < title.length then .error .titleTooLong
  else if d.teamAId = d.teamBId then .error .sameTeams
  else if d.week < 0 then .error .negativeWeek
  else .ok { d with title }

structure Fixture where
  id : Int
  fields : FixtureDraft
  deriving DecidableEq, Repr

/-- The fields to change; an absent one stays as it is. -/
structure FixturePatch where
  tournamentId : Option Int := none
  teamAId : Option Int := none
  teamBId : Option Int := none
  title : Option String := none
  week : Option Int := none
  matchDate : Option Instant := none
  deriving DecidableEq, Repr

namespace Fixture

def make (id : Int) (d : FixtureDraft) : Except FixtureError Fixture :=
  d.check.map (Fixture.mk id)

def merged (m : Fixture) (p : FixturePatch) : FixtureDraft where
  tournamentId := p.tournamentId.getD m.fields.tournamentId
  teamAId := p.teamAId.getD m.fields.teamAId
  teamBId := p.teamBId.getD m.fields.teamBId
  title := p.title.getD m.fields.title
  week := p.week.getD m.fields.week
  matchDate := p.matchDate.orElse fun _ => m.fields.matchDate

def withPatch (m : Fixture) (p : FixturePatch) : Except FixtureError Fixture :=
  make m.id (m.merged p)

end Fixture

end Matchday
