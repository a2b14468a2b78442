set_option autoImplicit false

namespace Matchday

/-- The tables whose rows are watched. A fixture is one scheduled match. -/
inductive WatchedTable
  | fixture
  | scoreboard
  | gameclock
  | playclock
  deriving DecidableEq, Repr

namespace WatchedTable

def all : List WatchedTable := [fixture, scoreboard, gameclock, playclock]

theorem mem_all (t : WatchedTable) : t ∈ all := by
  cases t <;> decide

def name : WatchedTable → String
  | fixture => "match"
  | scoreboard => "scoreboard"
  | gameclock => "gameclock"
  | playclock => "playclock"

end WatchedTable

/-- One value for each watched table. -/
structure PerTable (α : Type) where
  fixture : α
  scoreboard : α
  gameclock : α
  playclock : α
  deriving DecidableEq, Repr

namespace PerTable

variable {α β : Type}

def get (m : PerTable α) : WatchedTable → α
  | .fixture => m.fixture
  | .scoreboard => m.scoreboard
  | .gameclock => m.gameclock
  | .playclock => m.playclock

def set (m : PerTable α) (t : WatchedTable) (a : α) : PerTable α :=
  match t with
  | .fixture => { m with fixture := a }
  | .scoreboard => { m with scoreboard := a }
  | .gameclock => { m with gameclock := a }
  | .playclock => { m with playclock := a }

def const (a : α) : PerTable α := ⟨a, a, a, a⟩

def map (f : WatchedTable → α → β) (m : PerTable α) : PerTable β :=
  ⟨f .fixture m.fixture, f .scoreboard m.scoreboard, f .gameclock m.gameclock,
    f .playclock m.playclock⟩

def toList (m : PerTable α) : List (WatchedTable × α) :=
  WatchedTable.all.map fun t => (t, m.get t)

@[simp] theorem get_const (a : α) (t : WatchedTable) : (const a).get t = a := by
  cases t <;> rfl

@[simp] theorem get_map (f : WatchedTable → α → β) (m : PerTable α) (t : WatchedTable) :
    (m.map f).get t = f t (m.get t) := by
  cases t <;> rfl

@[simp] theorem get_set_self (m : PerTable α) (t : WatchedTable) (a : α) :
    (m.set t a).get t = a := by
  cases t <;> rfl

theorem get_set_of_ne (m : PerTable α) {t u : WatchedTable} (a : α) (h : u ≠ t) :
    (m.set t a).get u = m.get u := by
  cases t <;> cases u <;> first | rfl | exact absurd rfl h

theorem ext_get {m n : PerTable α} (h : ∀ t, m.get t = n.get t) : m = n := by
  cases m
  cases n
  have h₁ := h .fixture
  have h₂ := h .scoreboard
  have h₃ := h .gameclock
  have h₄ := h .playclock
  simp only [get] at h₁ h₂ h₃ h₄
  subst h₁ h₂ h₃ h₄
  rfl

end PerTable

/-- A channel carries announcements and is named after one table. -/
structure Channel where
  table : WatchedTable
  deriving DecidableEq, Repr

structure UnknownChannel where
  name : String
  deriving DecidableEq, Repr

def UnknownChannel.message (e : UnknownChannel) : String := s!"unknown channel: {e.name}"

namespace Channel

def name (c : Channel) : String := c.table.name ++ "_change"

def all : List Channel := WatchedTable.all.map Channel.mk

theorem mem_all (c : Channel) : c ∈ all :=
  List.mem_map.2 ⟨c.table, WatchedTable.mem_all _, rfl⟩

def ofName (name : String) : Except UnknownChannel Channel :=
  match all.find? (fun c => c.name == name) with
  | some c => .ok c
  | none => .error ⟨name⟩

end Channel

def WatchedTable.channel (t : WatchedTable) : Channel := ⟨t⟩

inductive Operation
  | insert
  | update
  | delete
  deriving DecidableEq, Repr

namespace Operation

def all : List Operation := [insert, update, delete]

def name : Operation → String
  | insert => "INSERT"
  | update => "UPDATE"
  | delete => "DELETE"

end Operation

/-- A committed mutation of one row; `matchId` is the owning match of a row that has one. -/
structure RowChange where
  table : WatchedTable
  operation : Operation
  rowId : Int
  matchId : Option Int
  deriving DecidableEq, Repr

namespace RowChange

def inserted (table : WatchedTable) (rowId : Int) (matchId : Option Int) : RowChange :=
  ⟨table, .insert, rowId, matchId⟩

def updated (table : WatchedTable) (rowId : Int) (matchId : Option Int) : RowChange :=
  ⟨table, .update, rowId, matchId⟩

def deleted (table : WatchedTable) (rowId : Int) (matchId : Option Int) : RowChange :=
  ⟨table, .delete, rowId, matchId⟩

end RowChange

/-- What listeners are told: a deleted row has no new id. -/
structure ChangeEvent where
  table : WatchedTable
  operation : Operation
  newId : Option Int
  oldId : Int
  matchId : Option Int
  deriving DecidableEq, Repr

def ChangeEvent.ofRowChange (c : RowChange) : ChangeEvent where
  table := c.table
  operation := c.operation
  newId := if c.operation = .delete then none else some c.rowId
  oldId := c.rowId
  matchId := c.matchId

structure ChangeFrame where
  channel : Channel
  payload : ChangeEvent
  deriving DecidableEq, Repr

end Matchday
