set_option autoImplicit false

/-!
# Rings

A ring keeps the newest of the values that were put into it. The values are numbered as they come; a
reader has the number of the value that it takes next. Where that value has been overwritten the reader
lags: it is told how many it has missed, and goes on with the oldest value that is still there.
-/
namespace Matchday

/-- The newest `size` of `sent` values, the newest first. -/
structure Ring (α : Type) where
  size : Nat
  sent : Nat
  kept : List α
  closed : Bool
  length_kept : kept.length = min sent size
  deriving DecidableEq, Repr

/-- What a reader is given, and where it goes on. -/
inductive Receipt (α : Type)
  | value (a : α) (next : Nat)
  | lagged (missed next : Nat)
  | empty
  | closed

namespace Ring

variable {α : Type}

def ofSize (size : Nat) : Ring α := ⟨size, 0, [], false, (Nat.zero_min size).symm⟩

def put (r : Ring α) (a : α) : Ring α where
  size := r.size
  sent := r.sent + 1
  kept := (a :: r.kept).take r.size
  closed := r.closed
  length_kept := by
    have hlength := r.length_kept
    simp only [List.length_take, List.length_cons]
    omega

def close (r : Ring α) : Ring α := { r with closed := true }

/-- The number of the oldest value that is kept. -/
def oldest (r : Ring α) : Nat := r.sent - r.size

def recv (r : Ring α) (next : Nat) : Receipt α :=
  if unread : next < r.sent then
    if kept : r.oldest ≤ next then
      have hlength := r.length_kept
      have hlt : r.sent - 1 - next < r.kept.length := by
        unfold oldest at kept
        omega
      .value r.kept[r.sent - 1 - next] (next + 1)
    else .lagged (r.oldest - next) r.oldest
  else if r.closed then .closed else .empty

theorem recv_value {r : Ring α} {next after : Nat} {a : α} (h : r.recv next = .value a after) :
    next < r.sent ∧ after = next + 1 ∧ r.oldest ≤ next ∧ r.kept[r.sent - 1 - next]? = some a := by
  unfold recv at h
  split at h
  · rename_i unread
    split at h
    · rename_i kept
      cases h
      exact ⟨unread, rfl, kept, List.getElem?_eq_getElem _⟩
    · cases h
  · split at h <;> cases h

theorem recv_lagged {r : Ring α} {next after missed : Nat} (h : r.recv next = .lagged missed after) :
    next < r.sent ∧ after = r.oldest ∧ next < r.oldest := by
  unfold recv at h
  split at h
  · rename_i unread
    split at h
    · cases h
    · rename_i lost
      cases h
      exact ⟨unread, rfl, Nat.lt_of_not_le lost⟩
  · split at h <;> cases h

def isOver (r : Ring α) (next : Nat) : Bool :=
  match r.recv next with
  | .closed => true
  | _ => false

/-- All that a reader takes until nothing is left, with the lags passed over, and where it is then. -/
def values (r : Ring α) (next : Nat) : List α × Nat :=
  match _h : r.recv next with
  | .value a after => ((a :: (r.values after).1), (r.values after).2)
  | .lagged _ after => r.values after
  | .empty | .closed => ([], next)
termination_by r.sent - next
decreasing_by
  · have hvalue := recv_value _h
    omega
  · have hlagged := recv_lagged _h
    unfold oldest at hlagged
    omega

end Ring

end Matchday
