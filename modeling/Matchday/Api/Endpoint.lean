import Matchday.Http.Request
import Matchday.Repository.Call

set_option autoImplicit false

namespace Matchday.Api

open Matchday
open Matchday.Http

inductive Creation
  | fixture
  | part (p : Part)
  deriving DecidableEq, Repr

/-- Endpoints for what has an id. -/
inductive ItemAction
  | getFixture
  | updateFixture
  | deleteFixture
  | getPart (p : Part)
  | getPartOf (p : Part)
  | updatePart (p : Part)
  | deletePart (p : Part)
  | startClock (k : ClockKind)
  | pauseGameClock
  | resetGameClock
  | stopPlayClock
  | getThrottle
  | touchThrottle
  | acquireThrottle
  | clearThrottle
  deriving DecidableEq, Repr

def root : List String := ["api", "v1"]

def partCollection : Part → String
  | .scoreboard => "scoreboards"
  | .gameclock => "gameclocks"
  | .playclock => "playclocks"

def fixtures : String := "matches"

namespace Creation

def all : List Creation := [fixture, part .scoreboard, part .gameclock, part .playclock]

def collection : Creation → String
  | fixture => fixtures
  | part p => partCollection p

def path (c : Creation) : List String := root ++ [c.collection]

end Creation

namespace ItemAction

def all : List ItemAction :=
  [getFixture, updateFixture, deleteFixture, getPart .scoreboard, updatePart .scoreboard,
    deletePart .scoreboard, getPartOf .scoreboard, getPart .gameclock, updatePart .gameclock,
    deletePart .gameclock, startClock .game, pauseGameClock, resetGameClock, getPartOf .gameclock,
    getPart .playclock, updatePart .playclock, deletePart .playclock, startClock .play,
    stopPlayClock, getPartOf .playclock, getThrottle, touchThrottle, acquireThrottle, clearThrottle]

def method : ItemAction → Method
  | getFixture => .get
  | updateFixture => .patch
  | deleteFixture => .delete
  | getPart _ => .get
  | getPartOf _ => .get
  | updatePart _ => .patch
  | deletePart _ => .delete
  | startClock _ => .post
  | pauseGameClock => .post
  | resetGameClock => .post
  | stopPlayClock => .post
  | getThrottle => .get
  | touchThrottle => .put
  | acquireThrottle => .post
  | clearThrottle => .delete

def collection : ItemAction → String
  | getPart p => partCollection p
  | updatePart p => partCollection p
  | deletePart p => partCollection p
  | startClock k => partCollection k.part
  | pauseGameClock => partCollection .gameclock
  | resetGameClock => partCollection .gameclock
  | stopPlayClock => partCollection .playclock
  | _ => fixtures

def suffixPath : ItemAction → List String
  | getPartOf p => [p.name]
  | startClock _ => ["start"]
  | pauseGameClock => ["pause"]
  | resetGameClock => ["reset"]
  | stopPlayClock => ["stop"]
  | getThrottle => ["stats-throttle"]
  | touchThrottle => ["stats-throttle"]
  | acquireThrottle => ["stats-throttle", "acquire"]
  | clearThrottle => ["stats-throttle"]
  | _ => []

def path (a : ItemAction) (segment : String) : List String :=
  root ++ a.collection :: segment :: a.suffixPath

def segment? (a : ItemAction) (segments : List String) : Option String := do
  let segment ← segments[root.length + 1]?
  if !segment.isEmpty ∧ segments = a.path segment then some segment else none

end ItemAction

inductive Route
  | create (c : Creation)
  | item (a : ItemAction) (segment : String)
  deriving DecidableEq, Repr

namespace Route

def find? (method : Method) (segments : List String) : Option Route :=
  (Creation.all.findSome? fun c =>
      if method = .post ∧ segments = c.path then some (create c) else none) <|>
    ItemAction.all.findSome? fun a =>
      if method = a.method then (a.segment? segments).map (item a) else none

end Route

end Matchday.Api
