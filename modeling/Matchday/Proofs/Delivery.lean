import Matchday.Bus
import Mathlib.Algebra.Group.Nat.Defs
import Mathlib.Order.Bounds.Basic
import Mathlib.Tactic.SplitIfs

set_option autoImplicit false

/-!
# What the bus delivers

A subscriber's history is what was published since it subscribed, with its own drains; nothing that other
subscribers do is in it. Draining yields, for each selected channel, the newest of what the history has
since its last drain, as many as a ring keeps.
-/
namespace Matchday

namespace Ring

variable {α : Type} {r : Ring α} {next : Nat} {pending : List α}

theorem sent_le_of_recv_empty (h : r.recv next = .empty) : r.sent ≤ next := by
  unfold recv at h
  split at h
  · split at h <;> cases h
  · rename_i hread
    exact Nat.le_of_not_lt hread

theorem recv_eq_closed_iff : r.recv next = .closed ↔ r.sent ≤ next ∧ r.closed = true := by
  unfold recv
  split
  · rename_i hunread
    split <;> simp [Nat.not_le.mpr hunread]
  · rename_i hread
    split <;> simp_all

theorem values_eq (r : Ring α) (next : Nat) (h : next ≤ r.sent) :
    r.values next = ((r.kept.take (r.sent - next)).reverse, r.sent) := by
  fun_induction values r next with
  | case1 next a after hrecv ih =>
    obtain ⟨hunread, rfl, -, hget⟩ := recv_value hrecv
    have hcount : r.sent - next = r.sent - 1 - next + 1 := by omega
    have hrest : r.sent - (next + 1) = r.sent - 1 - next := by omega
    rw [ih (by omega), hcount, hrest, List.take_add_one, hget]
    simp
  | case2 next missed after hrecv ih =>
    obtain ⟨hunread, rfl, hlost⟩ := recv_lagged hrecv
    have hlength := r.length_kept
    unfold oldest at hlost
    have hall : r.kept.take (r.sent - next) = r.kept := List.take_of_length_le (by omega)
    have hkept : r.kept.take (r.sent - r.oldest) = r.kept :=
      List.take_of_length_le (by unfold oldest; omega)
    rw [ih (by unfold oldest; omega), hall, hkept]
  | case3 next hrecv =>
    have hread := sent_le_of_recv_empty hrecv
    have hnext : next = r.sent := by omega
    simp [hnext]
  | case4 next hrecv =>
    have hread := (recv_eq_closed_iff.mp hrecv).1
    have hnext : next = r.sent := by omega
    simp [hnext]

/-- The values that a reader has not read, the newest first. -/
structure Owes (r : Ring α) (next : Nat) (pending : List α) : Prop where
  sent : r.sent = next + pending.length
  kept : ∃ older, r.kept = (pending ++ older).take r.size

theorem owes_sent (r : Ring α) : r.Owes r.sent [] := by
  have hlength := r.length_kept
  exact ⟨rfl, r.kept, (List.take_of_length_le (by omega)).symm⟩

theorem Owes.put (h : r.Owes next pending) (a : α) : (r.put a).Owes next (a :: pending) := by
  obtain ⟨hsent, older, hkept⟩ := h
  refine ⟨?_, older, ?_⟩
  · simp only [Ring.put, List.length_cons]
    omega
  · change (a :: r.kept).take r.size = (a :: pending ++ older).take r.size
    rw [hkept]
    cases r.size <;> simp [List.take_take]

theorem Owes.close (h : r.Owes next pending) : r.close.Owes next pending := ⟨h.sent, h.kept⟩

theorem Owes.values (h : r.Owes next pending) :
    r.values next = ((pending.take r.size).reverse, r.sent) := by
  obtain ⟨hsent, older, hkept⟩ := h
  have hdue : r.sent - next = pending.length := by omega
  rw [values_eq r next (by omega), hdue, hkept, List.take_take, Nat.min_comm, ← List.take_take,
    List.take_left]

theorem isOver_iff : r.isOver next = true ↔ r.recv next = .closed := by
  unfold isOver
  split <;> simp_all

theorem Owes.isOver_iff (h : r.Owes next pending) :
    r.isOver next = true ↔ pending = [] ∧ r.closed = true := by
  have hsent := h.sent
  rw [Ring.isOver_iff, recv_eq_closed_iff, ← List.length_eq_zero_iff]
  constructor <;> rintro ⟨hle, hclosed⟩ <;> exact ⟨by omega, hclosed⟩

end Ring

namespace Bus

inductive Step
  | subscribe (channels : List Channel)
  | publish (c : Channel) (e : ChangeEvent)
  | drain (id : Nat)
  | unsubscribe (id : Nat)
  | close

def step (b : Bus) : Step → Bus
  | .subscribe channels => (b.subscribe channels).2
  | .publish c e => b.publish c e
  | .drain id => (b.drain id).2
  | .unsubscribe id => b.unsubscribe id
  | .close => b.close

def after (b : Bus) : List Step → Bus
  | [] => b
  | s :: earlier => (b.after earlier).step s

def opened : List Step → Nat
  | [] => 0
  | .subscribe _ :: earlier => opened earlier + 1
  | _ :: earlier => opened earlier

def named? (id : Nat) : List Step → Option (List Channel)
  | [] => none
  | .subscribe channels :: earlier =>
    if id = opened earlier then some channels else named? id earlier
  | .unsubscribe j :: earlier => if j = id then none else named? id earlier
  | _ :: earlier => named? id earlier

inductive Sight
  | published (c : Channel) (e : ChangeEvent)
  | drained

/-- The history of a subscriber since it subscribed. -/
def sights (id : Nat) : List Step → List Sight
  | [] => []
  | .subscribe _ :: earlier => if id = opened earlier then [] else sights id earlier
  | .publish c e :: earlier => .published c e :: sights id earlier
  | .drain j :: earlier => if j = id then .drained :: sights id earlier else sights id earlier
  | .unsubscribe _ :: earlier | .close :: earlier => sights id earlier

def news (c : Channel) : List Sight → List ChangeEvent
  | [] => []
  | .published d e :: earlier => if d = c then e :: news c earlier else news c earlier
  | .drained :: earlier => news c earlier

/-- What a history has of a channel since the last drain. -/
def unseen (c : Channel) : List Sight → List ChangeEvent
  | [] | .drained :: _ => []
  | .published d e :: earlier => if d = c then e :: unseen c earlier else unseen c earlier

def seen (c : Channel) : List Sight → List ChangeEvent
  | [] => []
  | .published _ _ :: earlier => seen c earlier
  | .drained :: earlier => news c earlier

theorem news_eq (c : Channel) (history : List Sight) :
    news c history = unseen c history ++ seen c history := by
  induction history with
  | nil => rfl
  | cons sight earlier ih =>
    cases sight with
    | published d e =>
      simp only [news, unseen, seen, ih]
      split_ifs <;> rfl
    | drained => rfl

/-- Where a subscription stands on the channel of one table. -/
def Stands (b : Bus) (channels : List Channel) (history : List Sight) (t : WatchedTable) :
    Option Nat → Prop
  | none => ⟨t⟩ ∉ selection channels
  | some next => ⟨t⟩ ∈ selection channels ∧ (b.rings.get t).Owes next (unseen ⟨t⟩ history)

structure Follows (b : Bus) (size : Nat) (steps : List Step) : Prop where
  size : ∀ t, (b.rings.get t).size = size
  closed : ∀ t, (b.rings.get t).closed = true ↔ .close ∈ steps
  issued : b.issued = opened steps
  absent : ∀ id, named? id steps = none → b.subscription? id = none
  present : ∀ id channels, named? id steps = some channels →
    ∃ s, b.subscription? id = some s ∧ ∀ t, b.Stands channels (sights id steps) t (s.get t)

variable {b : Bus} {size : Nat} {steps : List Step}

theorem follows_ofCapacity (capacity : Nat) : (ofCapacity capacity).Follows (retention capacity) [] where
  size t := by simp [ofCapacity, Ring.ofSize]
  closed t := by simp [ofCapacity, Ring.ofSize]
  issued := rfl
  absent _ _ := rfl
  present _ _ h := by cases h

theorem lookup_filter_ne {β : Type} (l : List (Nat × β)) (j id : Nat) :
    (l.filter fun s => s.1 != j).lookup id = if j = id then none else l.lookup id := by
  induction l with
  | nil => simp
  | cons s rest ih =>
    obtain ⟨k, a⟩ := s
    by_cases hk : k = j
    · subst hk
      rw [List.filter_cons_of_neg (by simp), ih, List.lookup_cons]
      by_cases hid : k = id
      · simp [hid]
      · have hne : (id == k) = false := by simpa using Ne.symm hid
        simp [hid, hne]
    · rw [List.filter_cons_of_pos (by simpa using hk), List.lookup_cons, List.lookup_cons, ih]
      by_cases hid : id = k
      · have hne : j ≠ id := fun he => hk (hid.symm.trans he.symm)
        simp [hid, Ne.symm hk]
      · have hne : (id == k) = false := by simpa using hid
        simp [hne]

theorem lookup_map_at {β : Type} (l : List (Nat × β)) (f : β → β) (j id : Nat) :
    (l.map fun (k, t) => if k = j then (k, f t) else (k, t)).lookup id =
      if j = id then (l.lookup id).map f else l.lookup id := by
  induction l with
  | nil => simp
  | cons s rest ih =>
    obtain ⟨k, a⟩ := s
    rw [List.map_cons, List.lookup_cons]
    by_cases hid : id = k
    · subst hid
      by_cases hj : id = j
      · simp [hj]
      · simp [hj, Ne.symm hj]
    · have hne : (id == k) = false := by simpa using hid
      by_cases hk : k = j
      · simpa [hk, List.lookup_cons, hne, hk ▸ hne] using ih
      · simpa [hk, List.lookup_cons, hne] using ih

theorem receivers_pos {id : Nat} {s : Subscription} {c : Channel} {next : Nat}
    (found : b.subscription? id = some s) (reads : s.get c.table = some next) : b.receivers c ≠ 0 := by
  obtain ⟨newer, older, hsplit, -⟩ := List.lookup_eq_some_iff.mp found
  have hmem : (id, s) ∈ b.subscriptions := by
    rw [hsplit]
    simp
  have hpos : 0 < b.receivers c := List.countP_pos_iff.mpr ⟨(id, s), hmem, by simp [reads]⟩
  omega

theorem Follows.keep (h : b.Follows size steps) {b' : Bus} {steps' : List Step} {id : Nat}
    {channels : List Channel} (named : named? id steps = some channels)
    (same : b'.subscription? id = b.subscription? id)
    (moved : ∀ s t, b.subscription? id = some s → b.Stands channels (sights id steps) t (s.get t) →
      b'.Stands channels (sights id steps') t (s.get t)) :
    ∃ s, b'.subscription? id = some s ∧ ∀ t, b'.Stands channels (sights id steps') t (s.get t) := by
  obtain ⟨s, hs, hstands⟩ := h.present id channels named
  exact ⟨s, same.trans hs, fun t => moved s t hs (hstands t)⟩

theorem close_mem_cons (s : Step) (h : s ≠ .close) : .close ∈ s :: steps ↔ .close ∈ steps := by
  simp [Ne.symm h]

theorem stands_entry (b : Bus) (channels : List Channel) (t : WatchedTable) :
    b.Stands channels [] t ((b.entry channels).get t) := by
  rw [entry, PerTable.get_map]
  split_ifs with hselected
  · exact ⟨hselected, Ring.owes_sent _⟩
  · exact hselected

theorem Follows.subscribe (h : b.Follows size steps) (channels : List Channel) :
    (b.step (.subscribe channels)).Follows size (.subscribe channels :: steps) := by
  have hlookup (id : Nat) : (b.step (.subscribe channels)).subscription? id =
      if id = opened steps then some (b.entry channels) else b.subscription? id := by
    change List.lookup id ((b.issued, b.entry channels) :: b.subscriptions) = _
    rw [List.lookup_cons, h.issued]
    by_cases hid : id = opened steps
    · simp [hid]
    · have hne : (id == opened steps) = false := by simpa using hid
      simp [hid, hne, subscription?]
  refine ⟨h.size, ?_, ?_, ?_, ?_⟩
  · exact fun t => (h.closed t).trans (close_mem_cons (.subscribe channels) nofun).symm
  · change b.issued + 1 = opened steps + 1
    rw [h.issued]
  · intro id hnamed
    rw [named?] at hnamed
    rw [hlookup]
    split_ifs at hnamed ⊢
    exact h.absent id hnamed
  · intro id named hnamed
    rw [named?] at hnamed
    by_cases hid : id = opened steps
    · rw [if_pos hid] at hnamed
      cases hnamed
      refine ⟨b.entry channels, (hlookup id).trans (if_pos hid), ?_⟩
      intro t
      rw [sights, if_pos hid]
      exact b.stands_entry channels t
    · rw [if_neg hid] at hnamed
      refine h.keep hnamed ((hlookup id).trans (if_neg hid)) ?_
      intro s t _ hstands
      rw [sights, if_neg hid]
      exact hstands

theorem Stands.publish {channels : List Channel} {history : List Sight} {c : Channel}
    (e : ChangeEvent) {t : WatchedTable} {position : Option Nat}
    (stands : b.Stands channels history t position)
    (read : t = c.table → position ≠ none → b.receivers c ≠ 0) :
    (b.publish c e).Stands channels (.published c e :: history) t position := by
  cases position with
  | none => exact stands
  | some next =>
    obtain ⟨hselected, howes⟩ := stands
    refine ⟨hselected, ?_⟩
    by_cases ht : t = c.table
    · subst ht
      have hreceivers := read rfl (Option.some_ne_none next)
      have hunseen : unseen ⟨c.table⟩ (.published c e :: history) = e :: unseen ⟨c.table⟩ history :=
        if_pos rfl
      rw [Bus.publish, if_neg hreceivers, PerTable.get_set_self, hunseen]
      exact howes.put e
    · have hne : c ≠ ⟨t⟩ := fun he => ht (congrArg Channel.table he).symm
      have hunseen : unseen ⟨t⟩ (.published c e :: history) = unseen ⟨t⟩ history := if_neg hne
      have hring : (b.publish c e).rings.get t = b.rings.get t := by
        rw [Bus.publish]
        split_ifs
        · rfl
        · exact PerTable.get_set_of_ne _ _ ht
      rw [hring, hunseen]
      exact howes

theorem Follows.publish (h : b.Follows size steps) (c : Channel) (e : ChangeEvent) :
    (b.step (.publish c e)).Follows size (.publish c e :: steps) := by
  have hring (t : WatchedTable) :
      ((b.publish c e).rings.get t).size = (b.rings.get t).size ∧
        ((b.publish c e).rings.get t).closed = (b.rings.get t).closed := by
    rw [Bus.publish]
    split_ifs
    · exact ⟨rfl, rfl⟩
    · by_cases ht : t = c.table
      · subst ht
        simp only [PerTable.get_set_self]
        exact ⟨rfl, rfl⟩
      · simp only [PerTable.get_set_of_ne _ _ ht, and_self]
  have hsubscriptions : (b.publish c e).subscriptions = b.subscriptions := by
    rw [Bus.publish]
    split_ifs <;> rfl
  have hissued : (b.publish c e).issued = b.issued := by
    rw [Bus.publish]
    split_ifs <;> rfl
  have hlookup (id : Nat) : (b.step (.publish c e)).subscription? id = b.subscription? id :=
    congrArg (List.lookup id) hsubscriptions
  refine ⟨fun t => (hring t).1.trans (h.size t), ?_, hissued.trans h.issued, ?_, ?_⟩
  · intro t
    have hclosed := h.closed t
    rw [← (hring t).2] at hclosed
    exact hclosed.trans (close_mem_cons (.publish c e) nofun).symm
  · intro id hnamed
    exact (hlookup id).trans (h.absent id hnamed)
  · intro id channels hnamed
    refine h.keep hnamed (hlookup id) ?_
    intro s t hs hstands
    refine hstands.publish e ?_
    rintro rfl hposition
    obtain ⟨next, hnext⟩ := Option.ne_none_iff_exists'.mp hposition
    exact receivers_pos hs hnext

theorem subscription_drain (b : Bus) (j id : Nat) :
    (b.drain j).2.subscription? id =
      if j = id then (b.subscription? id).map b.caughtUp else b.subscription? id := by
  rw [drain]
  cases hs : b.subscription? j with
  | none =>
    split_ifs with hj
    · subst hj
      rw [hs]
      rfl
    · rfl
  | some s => exact lookup_map_at b.subscriptions b.caughtUp j id

theorem rings_drain (b : Bus) (j : Nat) : (b.drain j).2.rings = b.rings := by
  rw [drain]
  split <;> rfl

theorem Stands.caughtUp {channels : List Channel} {history : List Sight} {t : WatchedTable}
    {s : Subscription} (stands : b.Stands channels history t (s.get t)) :
    b.Stands channels (.drained :: history) t ((b.caughtUp s).get t) := by
  rw [Bus.caughtUp, PerTable.get_map, received]
  cases hposition : s.get t with
  | none =>
    rw [hposition] at stands
    exact stands
  | some next =>
    rw [hposition] at stands
    obtain ⟨hselected, howes⟩ := stands
    refine ⟨hselected, ?_⟩
    rw [howes.values]
    exact Ring.owes_sent _

theorem Follows.drain (h : b.Follows size steps) (j : Nat) :
    (b.step (.drain j)).Follows size (.drain j :: steps) := by
  have hrings : (b.step (.drain j)).rings = b.rings := rings_drain b j
  have hissued : (b.step (.drain j)).issued = b.issued := by
    change (b.drain j).2.issued = _
    rw [Bus.drain]
    split <;> rfl
  have hlookup := subscription_drain b j
  have hstands {channels : List Channel} {history : List Sight} {t : WatchedTable}
      {position : Option Nat} (stands : b.Stands channels history t position) :
      (b.step (.drain j)).Stands channels history t position := by
    cases position with
    | none => exact stands
    | some next => exact ⟨stands.1, hrings ▸ stands.2⟩
  refine ⟨fun t => hrings ▸ h.size t, ?_, hissued.trans h.issued, ?_, ?_⟩
  · intro t
    have hclosed := h.closed t
    rw [← hrings] at hclosed
    exact hclosed.trans (close_mem_cons (.drain j) nofun).symm
  · intro id hnamed
    refine (hlookup id).trans ?_
    rw [h.absent id hnamed]
    split_ifs <;> rfl
  · intro id channels hnamed
    by_cases hj : j = id
    · subst hj
      obtain ⟨s, hs, hs'⟩ := h.present j channels hnamed
      refine ⟨b.caughtUp s, ?_, ?_⟩
      · refine (hlookup j).trans ?_
        rw [if_pos rfl, hs]
        rfl
      · intro t
        rw [sights, if_pos rfl]
        exact hstands (hs' t).caughtUp
    · refine h.keep hnamed ((hlookup id).trans (if_neg hj)) ?_
      intro s t _ hs
      rw [sights, if_neg hj]
      exact hstands hs

theorem Follows.unsubscribe (h : b.Follows size steps) (j : Nat) :
    (b.step (.unsubscribe j)).Follows size (.unsubscribe j :: steps) := by
  have hlookup (id : Nat) : (b.step (.unsubscribe j)).subscription? id =
      if j = id then none else b.subscription? id := lookup_filter_ne b.subscriptions j id
  refine ⟨h.size, fun t => (h.closed t).trans (close_mem_cons (.unsubscribe j) nofun).symm, h.issued, ?_, ?_⟩
  · intro id hnamed
    rw [named?] at hnamed
    rw [hlookup]
    split_ifs at hnamed ⊢
    · rfl
    · exact h.absent id hnamed
  · intro id channels hnamed
    rw [named?] at hnamed
    split_ifs at hnamed with hj
    exact h.keep hnamed ((hlookup id).trans (if_neg hj)) fun s t _ hs => hs

theorem Follows.close (h : b.Follows size steps) :
    (b.step .close).Follows size (.close :: steps) := by
  have hring (t : WatchedTable) : (b.step .close).rings.get t = (b.rings.get t).close :=
    PerTable.get_map _ _ t
  refine ⟨?_, ?_, h.issued, h.absent, ?_⟩
  · intro t
    rw [hring]
    exact h.size t
  · intro t
    rw [hring]
    simp [Ring.close]
  · intro id channels hnamed
    refine h.keep hnamed rfl ?_
    intro s t _ hs
    cases hposition : s.get t with
    | none =>
      rw [hposition] at hs
      exact hs
    | some next =>
      rw [hposition] at hs
      refine ⟨hs.1, ?_⟩
      rw [hring]
      exact hs.2.close

theorem follows_after (capacity : Nat) (steps : List Step) :
    ((ofCapacity capacity).after steps).Follows (retention capacity) steps := by
  induction steps with
  | nil => exact follows_ofCapacity capacity
  | cons s earlier ih =>
    cases s with
    | subscribe channels => exact ih.subscribe channels
    | publish c e => exact ih.publish c e
    | drain j => exact ih.drain j
    | unsubscribe j => exact ih.unsubscribe j
    | close => exact ih.close

theorem retention_isLeast (capacity : Nat) :
    IsLeast {n | ∃ i, n = 2 ^ i ∧ max capacity 1 ≤ n} (retention capacity) := by
  unfold retention
  split_ifs with hsmall
  · refine ⟨⟨0, rfl, by omega⟩, ?_⟩
    rintro m ⟨i, rfl, hle⟩
    exact Nat.one_le_two_pow
  · have hne : capacity - 1 ≠ 0 := by omega
    change IsLeast _ (2 ^ ((capacity - 1).log2 + 1))
    constructor
    · have hlt : capacity - 1 < 2 ^ ((capacity - 1).log2 + 1) := Nat.lt_log2_self
      exact ⟨_, rfl, by omega⟩
    · rintro m ⟨i, rfl, hle⟩
      have hlog : (capacity - 1).log2 < i := (Nat.log2_lt hne).mpr (by omega)
      exact Nat.pow_le_pow_right (by decide) hlog

/-- What is due to a subscriber with a history on one channel, oldest first. -/
def due (retained : Nat) (channels : List Channel) (history : List Sight) (c : Channel) :
    List ChangeEvent :=
  if c ∈ selection channels then ((unseen c history).take retained).reverse else []

theorem Stands.received {channels : List Channel} {history : List Sight} {t : WatchedTable}
    {s : Subscription} (stands : b.Stands channels history t (s.get t)) :
    (b.received s t).1 = due (b.rings.get t).size channels history ⟨t⟩ := by
  rw [Bus.received, due]
  cases hposition : s.get t with
  | none =>
    rw [hposition] at stands
    rw [if_neg stands]
  | some next =>
    rw [hposition] at stands
    obtain ⟨hselected, howes⟩ := stands
    simp only [if_pos hselected, howes.values, Prod.map, id]

theorem Follows.drained (h : b.Follows size steps) {id : Nat} {channels : List Channel}
    (named : named? id steps = some channels) :
    (b.drain id).1 = WatchedTable.all.flatMap fun t =>
      (due size channels (sights id steps) ⟨t⟩).map fun e => (⟨t⟩, e) := by
  obtain ⟨s, hs, hstands⟩ := h.present id channels named
  rw [Bus.drain, hs]
  change b.receivable s = _
  rw [receivable]
  congr 1
  funext t
  rw [(hstands t).received, h.size]

theorem drain_of_absent {id : Nat} (absent : b.subscription? id = none) : (b.drain id).1 = [] := by
  rw [drain, absent]

def onChannel (c : Channel) (got : List (Channel × ChangeEvent)) : List ChangeEvent :=
  (got.filter fun x => x.1 = c).map Prod.snd

theorem onChannel_grouped (f : WatchedTable → List ChangeEvent) (c : Channel) :
    onChannel c (WatchedTable.all.flatMap fun t => (f t).map fun e => (⟨t⟩, e)) = f c.table := by
  have hgroup (t : WatchedTable) : onChannel c ((f t).map fun e => (⟨t⟩, e)) =
      if t = c.table then f c.table else [] := by
    by_cases ht : t = c.table
    · subst ht
      simp [onChannel, List.filter_map, Function.comp_def]
    · have hne : (⟨t⟩ : Channel) ≠ c := fun he => ht (congrArg Channel.table he)
      simp [onChannel, List.filter_map, Function.comp_def, hne, ht]
  have happend (xs ys : List (Channel × ChangeEvent)) :
      onChannel c (xs ++ ys) = onChannel c xs ++ onChannel c ys := by
    simp [onChannel]
  simp only [WatchedTable.all, List.flatMap_cons, List.flatMap_nil, happend, hgroup]
  cases c.table <;> simp [onChannel]

theorem Follows.drained_channel (h : b.Follows size steps) {id : Nat} {channels : List Channel}
    (named : named? id steps = some channels) (c : Channel) :
    onChannel c (b.drain id).1 = due size channels (sights id steps) c := by
  rw [h.drained named]
  exact onChannel_grouped (fun t => due size channels (sights id steps) ⟨t⟩) c

def given (capacity id : Nat) (c : Channel) : List Step → List ChangeEvent
  | [] => []
  | .drain j :: earlier =>
    if j = id then
      (onChannel c (((ofCapacity capacity).after earlier).drain id).1).reverse
        ++ given capacity id c earlier
    else given capacity id c earlier
  | .subscribe _ :: earlier => if id = opened earlier then [] else given capacity id c earlier
  | _ :: earlier => given capacity id c earlier

theorem given_sublist (capacity id : Nat) (c : Channel) (steps : List Step) :
    (given capacity id c steps).Sublist (seen c (sights id steps)) := by
  induction steps with
  | nil => exact List.Sublist.refl []
  | cons s earlier ih =>
    cases s with
    | subscribe channels =>
      rw [given, sights]
      split_ifs
      · exact List.Sublist.refl []
      · exact ih
    | publish d e => exact ih
    | unsubscribe j => exact ih
    | close => exact ih
    | drain j =>
      rw [given, sights]
      split_ifs with hj
      · have hfollows := follows_after capacity earlier
        rw [seen, news_eq]
        refine List.Sublist.append ?_ ih
        cases hnamed : named? id earlier with
        | none =>
          rw [drain_of_absent (hfollows.absent id hnamed)]
          exact List.nil_sublist _
        | some channels =>
          rw [hfollows.drained_channel hnamed, due]
          split_ifs
          · rw [List.reverse_reverse]
            exact List.take_sublist _ _
          · exact List.nil_sublist _
      · exact ih

theorem Stands.over_iff {channels : List Channel} {history : List Sight} {t : WatchedTable}
    {position : Option Nat} (stands : b.Stands channels history t position) :
    position.all (b.rings.get t).isOver = true ↔
      (⟨t⟩ ∈ selection channels → unseen ⟨t⟩ history = [] ∧ (b.rings.get t).closed = true) := by
  cases position with
  | none => simp [show ⟨t⟩ ∉ selection channels from stands]
  | some next =>
    obtain ⟨hselected, howes⟩ := stands
    rw [Option.all_some, howes.isOver_iff]
    exact ⟨fun hover _ => hover, fun hover => hover hselected⟩

theorem exists_selected (channels : List Channel) : ∃ t, ⟨t⟩ ∈ selection channels := by
  cases channels with
  | nil => exact ⟨.fixture, Channel.mem_all _⟩
  | cons c rest => exact ⟨c.table, List.mem_cons_self⟩

theorem Follows.hasEnded_iff (h : b.Follows size steps) {id : Nat} {channels : List Channel}
    (named : named? id steps = some channels) :
    b.hasEnded id = true ↔ .close ∈ steps ∧
      ∀ t, ⟨t⟩ ∈ selection channels → unseen ⟨t⟩ (sights id steps) = [] := by
  obtain ⟨s, hs, hstands⟩ := h.present id channels named
  rw [hasEnded, hs, Option.any_some, ended, List.all_eq_true]
  have hall (t : WatchedTable) := (hstands t).over_iff
  constructor
  · intro hended
    have htold (t : WatchedTable) := (hall t).mp (hended t t.mem_all)
    obtain ⟨t, ht⟩ := exists_selected channels
    exact ⟨(h.closed t).mp (htold t ht).2, fun u hu => (htold u hu).1⟩
  · rintro ⟨hclose, hunseen⟩ t -
    exact (hall t).mpr fun ht => ⟨hunseen t ht, (h.closed t).mpr hclose⟩

theorem due_eq_nil_iff {retained : Nat} (pos : 0 < retained) {channels : List Channel}
    {history : List Sight} {c : Channel} :
    due retained channels history c = [] ↔ c ∈ selection channels → unseen c history = [] := by
  have hne : retained ≠ 0 := by omega
  rw [due]
  split_ifs with hselected <;> simp [hselected, hne]

theorem retention_pos (capacity : Nat) : 0 < retention capacity := by
  obtain ⟨⟨i, hi, -⟩, -⟩ := retention_isLeast capacity
  rw [hi]
  exact Nat.two_pow_pos i

/-- Draining yields on each selected channel the newest events since the last drain, as many as the
capacity asks for, and on no other channel any; nothing is yielded twice, other subscribers do not
matter, and once the bus is closed the subscription ends when there is nothing left. -/
theorem delivers_newest (capacity : Nat) (steps : List Step) (id : Nat) (channels : List Channel)
    (live : named? id steps = some channels) :
    let b := (ofCapacity capacity).after steps
    let history := sights id steps
    let drained := (b.drain id).1
    (∃ retained, IsLeast {n | ∃ i, n = 2 ^ i ∧ max capacity 1 ≤ n} retained ∧
      ∀ c, onChannel c drained =
        if c ∈ selection channels then ((unseen c history).take retained).reverse else []) ∧
    (∀ c, (given capacity id c (.drain id :: steps)).Sublist (news c history)) ∧
    (∀ steps' id', named? id' steps' = some channels → sights id' steps' = history →
      (((ofCapacity capacity).after steps').drain id').1 = drained) ∧
    (b.hasEnded id = true ↔ .close ∈ steps ∧ drained = []) ∧
    ((b.drain id).2.hasEnded id = true ↔ .close ∈ steps) := by
  intro b history drained
  have hfollows : b.Follows (retention capacity) steps := follows_after capacity steps
  have hdrained := hfollows.drained_channel live
  refine ⟨⟨_, retention_isLeast capacity, hdrained⟩, ?_, ?_, ?_, ?_⟩
  · intro c
    have hsublist := given_sublist capacity id c (.drain id :: steps)
    have hseen : seen c (sights id (.drain id :: steps)) = news c history := by
      rw [sights, if_pos rfl]
      rfl
    rwa [hseen] at hsublist
  · intro steps' id' live' same
    have hall : drained = _ := hfollows.drained live
    rw [hall, (follows_after capacity steps').drained live', same]
  · rw [hfollows.hasEnded_iff live]
    refine and_congr_right fun _ => ?_
    constructor
    · intro hunseen
      have hdue (t : WatchedTable) :
          due (retention capacity) channels (sights id steps) ⟨t⟩ = [] :=
        (due_eq_nil_iff (retention_pos capacity)).mpr (hunseen t)
      have hall : drained = _ := hfollows.drained live
      simp only [hall, hdue, List.map_nil, List.flatMap_eq_nil_iff, implies_true]
    · intro hnil t
      have hdue := hdrained ⟨t⟩
      rw [show (b.drain id).1 = [] from hnil] at hdue
      exact (due_eq_nil_iff (retention_pos capacity)).mp hdue.symm
  · have hnext : (b.drain id).2.Follows (retention capacity) (.drain id :: steps) := hfollows.drain id
    have hnamed : named? id (.drain id :: steps) = some channels := live
    have hunseen (c : Channel) : unseen c (sights id (.drain id :: steps)) = [] := by
      rw [sights, if_pos rfl]
      rfl
    rw [hnext.hasEnded_iff hnamed, close_mem_cons (.drain id) nofun]
    exact and_iff_left fun t _ => hunseen ⟨t⟩

/-- A subscriber that has drained one event misses two of the six that follow, at rings of four; another
one has come and gone. -/
theorem delivers_newest_of_lagging :
    let event (n : Int) := ChangeEvent.ofRowChange (.updated .scoreboard n (some 1))
    let publish (n : Int) := Step.publish ⟨.scoreboard⟩ (event n)
    let steps := [.close, publish 6, publish 5, publish 4, publish 3, .unsubscribe 0, publish 2,
      publish 1, .drain 1, publish 0, .subscribe [], .subscribe [⟨.playclock⟩, ⟨.scoreboard⟩]]
    named? 1 steps = some [] ∧
      onChannel ⟨.scoreboard⟩ (((ofCapacity 3).after steps).drain 1).1 =
        [event 3, event 4, event 5, event 6] := by
  intro event publish steps
  refine ⟨rfl, ?_⟩
  obtain ⟨⟨retained, hleast, hdrained⟩, -⟩ := delivers_newest 3 steps 1 [] rfl
  have hretained : retained = 4 := hleast.unique (retention_isLeast 3)
  rw [hdrained, hretained]
  rfl

end Bus

end Matchday
