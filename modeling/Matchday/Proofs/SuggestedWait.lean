import Matchday.Proofs.ThrottleSpacing
import Mathlib.Order.Bounds.Basic

set_option autoImplicit false

namespace Matchday

namespace Instant

def nanoseconds (i : Instant) : Int := i.seconds * nanosPerSecond + i.nanos

def later (i : Instant) (ms : Nat) : Instant := i.add (ms * nanosPerMilli)

theorem isLeap_add (i : Instant) (d : Duration) : (i.add d).isLeap = false := by
  have hpositive : (0 : Int) < nanosPerSecond := by decide
  have hlt := Int.emod_lt_of_pos (i.seconds * nanosPerSecond + i.nanos + d) hpositive
  exact decide_eq_false (Nat.not_le.mpr ((Int.toNat_lt' (by decide)).mpr hlt))

theorem nanoseconds_add (i : Instant) (d : Duration) : (i.add d).nanoseconds = i.nanoseconds + d := by
  have hnonneg : 0 ≤ (i.nanoseconds + d) % nanosPerSecond := Int.emod_nonneg _ (by decide)
  change (i.nanoseconds + d) / nanosPerSecond * nanosPerSecond +
    ((i.nanoseconds + d) % nanosPerSecond).toNat = i.nanoseconds + d
  rw [Int.toNat_of_nonneg hnonneg]
  exact Int.ediv_mul_add_emod _ _

theorem isLeap_later (i : Instant) (ms : Nat) : (i.later ms).isLeap = false := i.isLeap_add _

theorem nanoseconds_later (i : Instant) (ms : Nat) :
    (i.later ms).nanoseconds = i.nanoseconds + ms * nanosPerMilli :=
  i.nanoseconds_add _

end Instant

/-- The fewest milliseconds that are no shorter than so many nanoseconds: any more are no shorter either,
any fewer are. -/
def FewestMillis (wait : Nat) (nanos : Int) : Prop := ∀ ms : Nat, wait ≤ ms ↔ nanos ≤ ms * nanosPerMilli

namespace FewestMillis

variable {wait other : Nat} {nanos : Int}

theorem isLeast (h : FewestMillis wait nanos) : IsLeast {ms : Nat | nanos ≤ ms * nanosPerMilli} wait :=
  ⟨(h wait).mp (Nat.le_refl wait), fun ms hms => (h ms).mpr hms⟩

theorem unique (h : FewestMillis wait nanos) (h' : FewestMillis other nanos) : wait = other :=
  h.isLeast.unique h'.isLeast

theorem pos (h : FewestMillis wait nanos) (pending : 0 < nanos) : 1 ≤ wait := by
  by_contra hzero
  have hnone := (h 0).mp (by omega)
  omega

theorem sub (h : FewestMillis wait nanos) {ms : Nat} (sooner : ms ≤ wait) :
    FewestMillis (wait - ms) (nanos - ms * nanosPerMilli) := by
  intro more
  have hsum := h (ms + more)
  rw [Int.natCast_add, Int.add_mul] at hsum
  omega

theorem of_tdiv (nonneg : 0 ≤ nanos) :
    FewestMillis (if nanos.tdiv nanosPerMilli * nanosPerMilli < nanos then nanos.tdiv nanosPerMilli + 1
      else nanos.tdiv nanosPerMilli).toNat nanos := by
  intro ms
  have hmilli : (nanosPerMilli : Int) = 1000000 := rfl
  rw [Int.tdiv_eq_ediv_of_nonneg nonneg, hmilli]
  split_ifs <;> omega

end FewestMillis

namespace ThrottleRecord

variable {r : ThrottleRecord} {now : Instant} {interval : Duration}

def left (r : ThrottleRecord) (now : Instant) (interval : Duration) : Int := interval - r.elapsed now

theorem left_eq (last : r.lastNotifiedAt.isLeap = false) (exact : now.isLeap = false)
    (interval : Duration) :
    r.left now interval = interval - max 0 (now.nanoseconds - r.lastNotifiedAt.nanoseconds) := by
  rw [left, elapsed, Instant.since_eq now r.lastNotifiedAt exact last, Int.max_comm]
  rfl

theorem left_le (r : ThrottleRecord) (now : Instant) (interval : Duration) :
    r.left now interval ≤ interval :=
  Int.sub_le_self _ (Int.le_max_right _ _)

theorem left_later (last : r.lastNotifiedAt.isLeap = false) (exact : now.isLeap = false)
    (past : r.lastNotifiedAt.nanoseconds ≤ now.nanoseconds) (interval : Duration) (ms : Nat) :
    r.left (now.later ms) interval = r.left now interval - ms * nanosPerMilli := by
  have hnonneg : 0 ≤ (ms : Int) * nanosPerMilli := Int.natCast_nonneg (ms * nanosPerMilli)
  have hmax (base time notified more : Int) (hpast : notified ≤ time) (hmore : 0 ≤ more) :
      base - max 0 (time + more - notified) = base - max 0 (time - notified) - more := by omega
  rw [left_eq last exact, left_eq last (now.isLeap_later ms), now.nanoseconds_later]
  exact hmax interval _ _ _ past hnonneg

theorem retryAfter_eq_none_iff_left :
    r.retryAfter now interval = none ↔ r.left now interval ≤ 0 := by
  rw [retryAfter_eq_none_iff]
  exact ⟨Int.sub_nonpos_of_le, Int.le_of_sub_nonpos⟩

theorem retryAfter_of_pending (bounded : interval ≤ longestDuration) (pending : 0 < r.left now interval) :
    ∃ wait, r.retryAfter now interval = some wait ∧ FewestMillis wait (r.left now interval) := by
  have hpending : ¬interval ≤ r.elapsed now := Int.not_le.mpr (Int.lt_of_sub_pos pending)
  have hmilli : (nanosPerMilli : Int) = 1000000 := rfl
  have hbound : r.left now interval ≤ 9223372036854775807 * 1000000 :=
    Int.le_trans (r.left_le now interval) bounded
  have hnonneg := Int.le_of_lt pending
  have hfewest := FewestMillis.of_tdiv hnonneg
  simp only [retryAfter, hpending, if_false]
  rw [← left]
  generalize r.left now interval = nanos at hbound hnonneg hfewest ⊢
  have hwhole : 0 ≤ nanos.tdiv nanosPerMilli := Int.tdiv_nonneg hnonneg (by decide)
  have hsaturation :
      (if nanos.tdiv nanosPerMilli * nanosPerMilli < nanos then
          min (nanos.tdiv nanosPerMilli + 1) 9223372036854775807 else nanos.tdiv nanosPerMilli) =
        if nanos.tdiv nanosPerMilli * nanosPerMilli < nanos then nanos.tdiv nanosPerMilli + 1
          else nanos.tdiv nanosPerMilli := by
    refine ite_congr rfl (fun hrest => ?_) fun _ => rfl
    rw [Int.tdiv_eq_ediv_of_nonneg hnonneg, hmilli] at hrest ⊢
    omega
  refine ⟨_, ?_, hfewest⟩
  rw [hsaturation]
  exact if_pos (by split_ifs <;> omega)

theorem fewestMillis_of_retryAfter (bounded : interval ≤ longestDuration) {wait : Nat}
    (h : r.retryAfter now interval = some wait) : FewestMillis wait (r.left now interval) := by
  have hpending : 0 < r.left now interval := by
    by_contra hpassed
    rw [retryAfter_eq_none_iff_left.mpr (Int.not_lt.mp hpassed)] at h
    cases h
  obtain ⟨same, hsame, hfewest⟩ := retryAfter_of_pending bounded hpending
  cases h.symm.trans hsame
  exact hfewest

theorem retryAfter_later (bounded : interval ≤ longestDuration)
    (last : r.lastNotifiedAt.isLeap = false) (exact : now.isLeap = false)
    (past : r.lastNotifiedAt.nanoseconds ≤ now.nanoseconds) {wait : Nat}
    (h : r.retryAfter now interval = some wait) :
    r.retryAfter (now.later wait) interval = none ∧
      ∀ ms < wait, r.retryAfter (now.later ms) interval = some (wait - ms) := by
  have hfewest := fewestMillis_of_retryAfter bounded h
  have hleft := left_later last exact past interval
  refine ⟨retryAfter_eq_none_iff_left.mpr ?_, fun ms hms => ?_⟩
  · rw [hleft]
    exact Int.sub_nonpos_of_le ((hfewest wait).mp (Nat.le_refl wait))
  · have hpending : 0 < r.left (now.later ms) interval := by
      rw [hleft]
      exact Int.sub_pos_of_lt (Int.not_le.mp fun hle => Nat.not_le.mpr hms ((hfewest ms).mpr hle))
    obtain ⟨rest, hrest, hcovers⟩ := retryAfter_of_pending bounded hpending
    rw [hleft] at hcovers
    rw [hrest, hcovers.unique (hfewest.sub (Nat.le_of_lt hms))]

end ThrottleRecord

namespace Application

open Matchday.ThrottleRecord

variable {app : Application Store} {m : Int} {r : ThrottleRecord}

structure Move.Asks (interval : Duration) (m : Int) (move : Move) : Prop where
  target : move.target? = some (.acquireThrottle, m)
  configured : ∀ given, move = .call (.acquireThrottle given m) → given = interval

theorem decides_of_pending (memory : app.storage = Store.storage) (present : app.entry m = some r)
    {wait : Nat} (pending : r.retryAfter app.world.clock app.interval = some wait) {ask : Move}
    (asks : ask.Asks app.interval m) :
    ask.Decides app (.suppress r.lastNotifiedAt wait) ∧ app.step ask = app := by
  have hacquire : app.acquire m = (.suppress r.lastNotifiedAt wait, app) := by
    rw [acquire, present, Service.pendingWait_some, pending]
    rfl
  have hstep := step_acquire memory asks.target asks.configured
  rwa [hacquire] at hstep

theorem decides_of_passed (memory : app.storage = Store.storage) (present : app.entry m = some r)
    (passed : r.retryAfter app.world.clock app.interval = none) {ask : Move}
    (asks : ask.Asks app.interval m) : ask.Decides app (.emit ⟨m, app.world.clock⟩) := by
  have hacquire : (app.acquire m).1 = .emit ⟨m, app.world.clock⟩ := by
    rw [acquire, present, Service.pendingWait_some, passed]
    rfl
  exact hacquire ▸ (step_acquire memory asks.target asks.configured).1

/-- No wait is suggested exactly when the interval has passed since the last notification, or since now if
that lies ahead; otherwise the fewest milliseconds that are no shorter than what is left of it, at least
one. If the last notification does not lie ahead, no wait is suggested when they are over, and before
that what is left of them; so who asks then, with the entry of the match as it was, is let through, and who
asks sooner is not. -/
theorem suggested_wait_least {r : ThrottleRecord} {now : Instant} {interval : Duration}
    (last : r.lastNotifiedAt.isLeap = false) (exact : now.isLeap = false)
    (bounded : interval ≤ longestDuration) :
    let elapsed := max 0 (now.nanoseconds - r.lastNotifiedAt.nanoseconds)
    (r.retryAfter now interval = none ↔ interval ≤ elapsed) ∧
    (elapsed < interval →
      ∃ wait, r.retryAfter now interval = some wait ∧ 1 ≤ wait ∧
        IsLeast {ms : Nat | interval - elapsed ≤ ms * nanosPerMilli} wait) ∧
    ∀ wait, r.retryAfter now interval = some wait →
      r.lastNotifiedAt.nanoseconds ≤ now.nanoseconds →
      r.retryAfter (now.later wait) interval = none ∧
      (∀ ms < wait, r.retryAfter (now.later ms) interval = some (wait - ms)) ∧
      ∀ (app : Application Store) (m : Int) (ask : Move), app.storage = Store.storage →
        app.interval = interval → app.world.clock = now → app.entry m = some r →
        ask.Asks interval m →
        ask.Decides app (.suppress r.lastNotifiedAt wait) ∧ app.step ask = app ∧
        ∀ moves, (app.after moves).entry m = some r →
          ((app.after moves).world.clock = now.later wait →
            ask.Decides (app.after moves) (.emit ⟨m, now.later wait⟩)) ∧
          ∀ ms < wait, (app.after moves).world.clock = now.later ms →
            ask.Decides (app.after moves) (.suppress r.lastNotifiedAt (wait - ms)) := by
  intro elapsed
  have hleft : r.left now interval = interval - elapsed := left_eq last exact interval
  refine ⟨?_, ?_, ?_⟩
  · rw [retryAfter_eq_none_iff_left, hleft]
    exact ⟨Int.le_of_sub_nonpos, Int.sub_nonpos_of_le⟩
  · intro hpending
    have hpos : 0 < r.left now interval := hleft ▸ Int.sub_pos_of_lt hpending
    obtain ⟨wait, hwait, hfewest⟩ := retryAfter_of_pending bounded hpos
    exact ⟨wait, hwait, hfewest.pos hpos, hleft ▸ hfewest.isLeast⟩
  · intro wait hwait hpast
    obtain ⟨hover, hbefore⟩ := retryAfter_later bounded last exact hpast hwait
    refine ⟨hover, hbefore, ?_⟩
    rintro app m ask memory rfl rfl present asks
    obtain ⟨hdecides, hkept⟩ := decides_of_pending memory present hwait asks
    refine ⟨hdecides, hkept, fun moves hentry => ?_⟩
    have hmemory := (storage_after moves).trans memory
    have hinterval : (app.after moves).interval = app.interval := interval_after moves
    rw [← hinterval] at asks hover hbefore
    refine ⟨fun hclock => ?_, fun ms hms hclock => ?_⟩
    · rw [← hclock] at hover ⊢
      exact decides_of_passed hmemory hentry hover asks
    · have hrest := hbefore ms hms
      rw [← hclock] at hrest
      exact (decides_of_pending hmemory hentry hrest asks).1

/-- After a hundred nanoseconds of a millisecond and a half the wait is two milliseconds. -/
theorem suggested_wait_least_of_fractions :
    let r : ThrottleRecord := ⟨7, ⟨1000, 300⟩⟩
    let now : Instant := ⟨1000, 400⟩
    let app := (start Store.storage .empty ⟨1000, 300⟩ 1500000 256).after
      [.tick now, .call (.touchThrottle 7 none)]
    let ask : Move := .call (.acquireThrottle 1500000 7)
    r.lastNotifiedAt.isLeap = false ∧ now.isLeap = false ∧ 1500000 ≤ longestDuration ∧
      r.retryAfter now 1500000 = some 2 ∧
      r.lastNotifiedAt.nanoseconds ≤ now.nanoseconds ∧ app.storage = Store.storage ∧
      app.interval = 1500000 ∧ app.world.clock = now ∧ app.entry 7 = some r ∧ ask.Asks 1500000 7 ∧
      ask.Decides app (.suppress ⟨1000, 300⟩ 2) ∧
      ask.Decides (app.after [.tick ⟨1000, 2000400⟩]) (.emit ⟨7, ⟨1000, 2000400⟩⟩) ∧
      ask.Decides (app.after [.tick ⟨1000, 1000400⟩]) (.suppress ⟨1000, 300⟩ 1) := by
  intro r now app ask
  have hlast : r.lastNotifiedAt.isLeap = false := rfl
  have hnow : now.isLeap = false := rfl
  have hbounded : (1500000 : Duration) ≤ longestDuration := by decide
  have hwait : r.retryAfter now 1500000 = some 2 := by decide
  have hpast : r.lastNotifiedAt.nanoseconds ≤ now.nanoseconds := by decide
  have hentry : app.entry 7 = some r := rfl
  have hasks : ask.Asks 1500000 7 :=
    ⟨rfl, fun given hgiven => (Service.Command.acquireThrottle.inj (Move.call.inj hgiven)).1.symm⟩
  obtain ⟨-, -, hthen⟩ := suggested_wait_least hlast hnow hbounded
  obtain ⟨-, -, hasked⟩ := hthen 2 hwait hpast
  obtain ⟨hsuppressed, -, hafter⟩ := hasked app 7 ask rfl rfl rfl hentry hasks
  have hover : now.later 2 = ⟨1000, 2000400⟩ := by decide
  have hsooner : now.later 1 = ⟨1000, 1000400⟩ := by decide
  rw [← hover, ← hsooner]
  exact ⟨hlast, hnow, hbounded, hwait, hpast, rfl, rfl, rfl, hentry, hasks, hsuppressed,
    (hafter [.tick (now.later 2)] rfl).1 rfl, (hafter [.tick (now.later 1)] rfl).2 1 (by decide) rfl⟩

end Application

end Matchday
