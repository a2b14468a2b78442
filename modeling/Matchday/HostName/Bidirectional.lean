import Matchday.Text.Direction

set_option autoImplicit false

namespace Matchday.HostName

open Matchday.Text

def runsLeft (d : Direction) : Bool :=
  d == .rightToLeft || d == .arabicLetter || d == .arabicNumber

def isCommon (d : Direction) : Bool :=
  [.europeanNumber, .europeanSeparator, .commonSeparator, .europeanTerminator, .neutral, .boundary,
    .mark].contains d

def endsIn (endings : List Direction) (ds : List Direction) : Bool :=
  match (ds.reverse.dropWhile (· == .mark)).head? with
  | some d => endings.contains d
  | none => true

def isOneWay (ds : List Direction) : Bool :=
  match ds with
  | [] => true
  | .leftToRight :: rest =>
    rest.all (fun d => d == .leftToRight || isCommon d)
      && endsIn [.leftToRight, .europeanNumber] rest
  | d :: rest =>
    (d == .rightToLeft || d == .arabicLetter)
      && rest.all (fun d => runsLeft d || isCommon d)
      && endsIn [.rightToLeft, .arabicLetter, .europeanNumber, .arabicNumber] rest
      && !(rest.contains .europeanNumber && rest.contains .arabicNumber)

/-- Whether a name is unambiguous: in one direction as a whole, or in each of its labels. -/
def isUnambiguous (labels : List (List Char)) : Bool :=
  let directions := labels.map fun label => label.map Direction.of
  !directions.any (fun ds => ds.any runsLeft) || directions.all isOneWay

end Matchday.HostName
