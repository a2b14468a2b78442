import Matchday.Change
import Matchday.Ring

set_option autoImplicit false

/-!
# The bus

The bus has a ring for each channel. A subscription selects channels and is a reader of the rings of
these; a channel that nobody reads keeps nothing of what is published on it. Once the bus is closed a
subscription still yields what the rings keep for it, and then ends.
-/
namespace Matchday

/-- For each selected channel, where the subscriber goes on. -/
abbrev Subscription := PerTable (Option Nat)

/-- The rings and the live subscriptions by number. -/
structure Bus where
  rings : PerTable (Ring ChangeEvent)
  subscriptions : List (Nat × Subscription)
  issued : Nat
  deriving DecidableEq, Repr

namespace Bus

def defaultCapacity : Nat := 256

/-- The least power of two that is at least the capacity. -/
def retention (capacity : Nat) : Nat :=
  if capacity ≤ 1 then 1 else Nat.pow 2 ((capacity - 1).log2 + 1)

def ofCapacity (capacity : Nat) : Bus :=
  ⟨PerTable.const (Ring.ofSize (retention capacity)), [], 0⟩

def receivers (b : Bus) (c : Channel) : Nat :=
  b.subscriptions.countP fun s => (s.2.get c.table).isSome

def publish (b : Bus) (c : Channel) (e : ChangeEvent) : Bus :=
  if b.receivers c = 0 then b
  else { b with rings := b.rings.set c.table ((b.rings.get c.table).put e) }

/-- No channel named means every channel. -/
def selection (channels : List Channel) : List Channel :=
  if channels.isEmpty then Channel.all else channels

def entry (b : Bus) (channels : List Channel) : Subscription :=
  b.rings.map fun t ring => if ⟨t⟩ ∈ selection channels then some ring.sent else none

def subscribe (b : Bus) (channels : List Channel) : Nat × Bus :=
  (b.issued,
    { b with
      subscriptions := (b.issued, b.entry channels) :: b.subscriptions
      issued := b.issued + 1 })

def unsubscribe (b : Bus) (id : Nat) : Bus :=
  { b with subscriptions := b.subscriptions.filter fun s => s.1 != id }

def subscription? (b : Bus) (id : Nat) : Option Subscription := b.subscriptions.lookup id

/-- What a subscription is given on one table's channel, oldest first, and where it is then. -/
def received (b : Bus) (s : Subscription) (t : WatchedTable) : List ChangeEvent × Option Nat :=
  match s.get t with
  | none => ([], none)
  | some next => ((b.rings.get t).values next).map id some

def receivable (b : Bus) (s : Subscription) : List (Channel × ChangeEvent) :=
  WatchedTable.all.flatMap fun t => (b.received s t).1.map fun e => (⟨t⟩, e)

def caughtUp (b : Bus) (s : Subscription) : Subscription := s.map fun t _ => (b.received s t).2

def drain (b : Bus) (id : Nat) : List (Channel × ChangeEvent) × Bus :=
  match b.subscription? id with
  | none => ([], b)
  | some s =>
    (b.receivable s,
      { b with
        subscriptions := b.subscriptions.map fun (k, t) => if k = id then (k, b.caughtUp t) else (k, t) })

def close (b : Bus) : Bus := { b with rings := b.rings.map fun _ ring => ring.close }

def ended (b : Bus) (s : Subscription) : Bool :=
  WatchedTable.all.all fun t => (s.get t).all (b.rings.get t).isOver

def hasEnded (b : Bus) (id : Nat) : Bool := (b.subscription? id).any b.ended

end Bus

end Matchday
