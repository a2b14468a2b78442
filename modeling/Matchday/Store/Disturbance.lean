import Matchday.Store.Memory

set_option autoImplicit false

/-!
# A store that can be disturbed

What can go wrong between a program and the store is armed beforehand and strikes at the next call
of its kind: the call fails without reaching the store, the row or its match has gone, or another
write has come first.
-/
namespace Matchday

inductive CallKind
  | insert
  | find
  | findByMatch
  | update
  | delete
  | touch
  deriving DecidableEq, Repr

namespace Call

def repository : Call → Repository
  | .findFixture _ => .fixture
  | .insertFixture _ => .fixture
  | .updateFixture _ => .fixture
  | .deleteFixture _ => .fixture
  | .find p _ => p.repository
  | .findByMatch p _ => p.repository
  | .insert p _ => p.repository
  | .updateScoreboard _ => .scoreboard
  | .updateClock k _ _ => k.part.repository
  | .delete p _ => p.repository
  | .findThrottle _ => .throttle
  | .touchThrottle _ _ => .throttle
  | .deleteThrottle _ => .throttle

def kind : Call → CallKind
  | .findFixture _ => .find
  | .insertFixture _ => .insert
  | .updateFixture _ => .update
  | .deleteFixture _ => .delete
  | .find _ _ => .find
  | .findByMatch _ _ => .findByMatch
  | .insert _ _ => .insert
  | .updateScoreboard _ => .update
  | .updateClock _ _ _ => .update
  | .delete _ _ => .delete
  | .findThrottle _ => .find
  | .touchThrottle _ _ => .touch
  | .deleteThrottle _ => .delete

/-- The answer that a call gets without its connection or its query. -/
def failWith (f : AccessFault) : (c : Call) → Answer c
  | .findFixture _ => .error f
  | .insertFixture _ => .error f
  | .updateFixture _ => .error f
  | .deleteFixture _ => .error f
  | .find p _ => .error (p.access f)
  | .findByMatch p _ => .error (p.access f)
  | .insert p _ => .error (p.access f)
  | .updateScoreboard _ => .error (.access f)
  | .updateClock _ _ _ => .error (.access f)
  | .delete p _ => .error (p.access f)
  | .findThrottle _ => .error f
  | .touchThrottle _ _ => .error f
  | .deleteThrottle _ => .error f

/-- The answer of a clock's call that fails with a fault of clocks. -/
def failClock? (f : ClockFault) : (c : Call) → Option (Answer c)
  | .find .gameclock _ => some (.error f)
  | .find .playclock _ => some (.error f)
  | .findByMatch .gameclock _ => some (.error f)
  | .findByMatch .playclock _ => some (.error f)
  | .insert .gameclock _ => some (.error f)
  | .insert .playclock _ => some (.error f)
  | .updateClock _ _ _ => some (.error f)
  | .delete .gameclock _ => some (.error f)
  | .delete .playclock _ => some (.error f)
  | _ => none

end Call

inductive Disturbance
  | access (f : AccessFault)
  | clock (f : ClockFault)
  | vanish
  | race
  deriving DecidableEq, Repr

namespace Store

def vanish (s : Store) : Call → Store
  | .updateFixture row => (s.deleteFixture row.id).2
  | .updateScoreboard row => (s.deletePart .scoreboard row.id).2
  | .updateClock k row _ => (s.deletePart k.part (k.part.rowId row)).2
  | .insert p draft => (s.deleteFixture (p.draftOwner draft)).2
  | _ => s

/-- Another write of a clock: a game clock is reset, a play clock stopped. -/
def rivalWrite : (k : ClockKind) → k.Row → k.Row
  | .game, r => GameClock.reset r
  | .play, r => PlayClock.stop r

def race (s : Store) : Call → Store
  | .updateClock k row _ =>
    match s.findPart k.part (k.part.rowId row) with
    | some stored => (s.updateClock k (rivalWrite k stored) (k.version stored)).2
    | none => s
  | _ => s

end Store

/-- A disturbance and the calls that it waits for. -/
structure Armed where
  repository : Repository
  kind : CallKind
  disturbance : Disturbance
  deriving DecidableEq, Repr

def Armed.awaits (a : Armed) (c : Call) : Bool := a.repository == c.repository && a.kind == c.kind

structure DisturbedStore where
  store : Store
  armed : List Armed
  deriving DecidableEq, Repr

namespace DisturbedStore

def empty : DisturbedStore := ⟨.empty, []⟩

def arm (s : DisturbedStore) (a : Armed) : DisturbedStore := { s with armed := s.armed ++ [a] }

def plain (s : DisturbedStore) (now : Instant) (c : Call) : Answer c × DisturbedStore :=
  let (r, store) := s.store.answer now c
  (r, { s with store })

def struck (s : DisturbedStore) (now : Instant) (c : Call) : Disturbance → Answer c × DisturbedStore
  | .access f => (c.failWith f, s)
  | .clock f =>
    match c.failClock? f with
    | some r => (r, s)
    | none => s.plain now c
  | .vanish => plain { s with store := s.store.vanish c } now c
  | .race => plain { s with store := s.store.race c } now c

def answer (s : DisturbedStore) (now : Instant) (c : Call) : Answer c × DisturbedStore :=
  match s.armed.find? (·.awaits c) with
  | none => s.plain now c
  | some a => struck { s with armed := s.armed.eraseP (·.awaits c) } now c a.disturbance

def storage : Storage DisturbedStore := ⟨answer⟩

end DisturbedStore

end Matchday
