import Matchday.Change

set_option autoImplicit false

/-!
# Triggers and the change feed

A trigger binds one table to a channel. The feed keeps at most one trigger per table; a row change
is announced on the channel of its table's trigger, and not at all where none is bound.
-/
namespace Matchday

structure Trigger where
  name : String
  table : WatchedTable
  channel : Channel
  deriving DecidableEq, Repr

namespace Trigger

def forTable (t : WatchedTable) : Trigger :=
  ⟨t.name ++ "_change_trigger", t, t.channel⟩

/-- The play clock's first trigger, which `forTable` supersedes. -/
def firstPlayclock : Trigger :=
  ⟨"playclock_notify_trigger", .playclock, WatchedTable.playclock.channel⟩

end Trigger

inductive Binding
  | created
  | alreadyExists
  | replaced
  deriving DecidableEq, Repr

/-- The trigger in force for each table. -/
abbrev Feed := PerTable (Option Trigger)

namespace Feed

def empty : Feed := PerTable.const none

def create (f : Feed) (t : Trigger) : Binding × Feed :=
  match f.get t.table with
  | some _ => (.alreadyExists, f)
  | none => (.created, f.set t.table (some t))

def replace (f : Feed) (t : Trigger) : Binding × Feed :=
  (if (f.get t.table).isSome then .replaced else .created, f.set t.table (some t))

def drop (f : Feed) (t : WatchedTable) : Bool × Feed :=
  ((f.get t).isSome, f.set t none)

def bound (f : Feed) : List Trigger := f.toList.filterMap Prod.snd

def count (f : Feed) : Nat := f.bound.length

def announce (f : Feed) (c : RowChange) : Option (Channel × ChangeEvent) :=
  (f.get c.table).map fun t => (t.channel, .ofRowChange c)

inductive Step
  | create (t : Trigger)
  | replace (t : Trigger)
  | drop (t : WatchedTable)
  deriving DecidableEq, Repr

/-- A feed is used in steps and in row changes that it is told of. -/
inductive Use
  | step (s : Step)
  | fire (change : RowChange)

inductive Report
  | bound (b : Binding)
  | dropped (had : Bool)
  | fired (event : Option ChangeEvent)

/-- What comes of a use: what it returns, what it publishes, and the feed after it. -/
structure Used where
  report : Report
  published : List (Channel × ChangeEvent)
  feed : Feed

def use (f : Feed) : Use → Used
  | .step (.create g) => ⟨.bound (f.create g).1, [], (f.create g).2⟩
  | .step (.replace g) => ⟨.bound (f.replace g).1, [], (f.replace g).2⟩
  | .step (.drop t) => ⟨.dropped (f.drop t).1, [], (f.drop t).2⟩
  | .fire change => ⟨.fired ((f.announce change).map Prod.snd), (f.announce change).toList, f⟩

/-- The steps that led to today's triggers. -/
def history : List Step :=
  [.create .firstPlayclock, .create (.forTable .fixture), .create (.forTable .scoreboard),
    .create (.forTable .gameclock), .replace (.forTable .playclock)]

def standard : Feed := history.foldl (fun f s => (f.use (.step s)).feed) empty

theorem standard_get (t : WatchedTable) : standard.get t = some (.forTable t) := by
  cases t <;> rfl

end Feed

end Matchday
