import Matchday.Proofs.StatusPatch
import Mathlib.Data.Rat.Floor

set_option autoImplicit false

namespace Matchday

instance (t : Int) : Decidable (IsTime t) := inferInstanceAs (Decidable (_ ∧ _))

theorem elapsedSeconds_eq {startedAt now : Int} (nonneg : 0 ≤ startedAt) (inRange : IsTime now) :
    elapsedSeconds startedAt now = max 0 (now - startedAt) / 1000 := by
  obtain ⟨-, hle⟩ := inRange
  rw [elapsedSeconds, saturateTime]
  rw [greatestTime] at hle ⊢
  rw [leastTime]
  congr 1
  omega

theorem elapsedSeconds_mono (startedAt : Int) {now later : Int} (le : now ≤ later) :
    elapsedSeconds startedAt now ≤ elapsedSeconds startedAt later := by
  rw [elapsedSeconds, elapsedSeconds, saturateTime, saturateTime]
  omega

theorem clampSeconds_eq {seconds : Int} (le : seconds ≤ greatestSeconds) :
    clampSeconds seconds = max 0 seconds := by
  rw [clampSeconds, greatestSeconds] at *
  omega

namespace GameClock

variable {c : GameClock}

theorem isRunning_iff : c.isRunning = true ↔ c.fields.status = .running := beq_iff_eq

theorem remainingAt_of_idle (idle : c.isRunning = false) (now : Int) :
    c.remainingAt now = c.fields.gameclock := by
  rw [remainingAt]
  split
  · next hstatus _ =>
    rw [isRunning_iff.mpr hstatus] at idle
    cases idle
  · rfl

theorem exists_start (sound : c.fields.Sound) (running : c.isRunning = true) :
    ∃ startedAt, c.fields.startedAtMs = some startedAt ∧ 0 ≤ startedAt := by
  obtain ⟨startedAt, hstarted⟩ :=
    Option.isSome_iff_exists.mp (sound.started.mpr (isRunning_iff.mp running))
  exact ⟨startedAt, hstarted, sound.start startedAt hstarted⟩

theorem remainingAt_of_started (running : c.isRunning = true) {startedAt : Int}
    (started : c.fields.startedAtMs = some startedAt) (now : Int) :
    c.remainingAt now = clampSeconds (c.fields.gameclock - elapsedSeconds startedAt now) := by
  rw [remainingAt, isRunning_iff.mp running, started]

theorem remainingAt_of_running (sound : c.fields.Sound) (fits : c.fields.gameclockMax ≤ greatestSeconds)
    (running : c.isRunning = true) {startedAt : Int} (started : c.fields.startedAtMs = some startedAt)
    (now : Int) :
    c.remainingAt now = max 0 (c.fields.gameclock - max 0 (now - startedAt) / 1000) := by
  have hstart := sound.start startedAt started
  have hwithin := sound.within
  have helapsed := elapsedSeconds_nonneg startedAt now
  rw [remainingAt_of_started running started, clampSeconds_eq (by omega)]
  rcases Int.le_total now greatestTime with hle | hlate
  · rcases Int.le_total leastTime now with hge | hearly
    · rw [elapsedSeconds_eq hstart ⟨hge, hle⟩]
    · rw [elapsedSeconds, saturateTime]
      rw [leastTime] at *
      omega
  · -- So long after the start none are left, whether or not the time that has passed saturates.
    rw [elapsedSeconds, saturateTime]
    rw [leastTime, greatestTime, greatestSeconds] at *
    omega

theorem remainingAt_antitone (c : GameClock) {now later : Int} (le : now ≤ later) :
    c.remainingAt later ≤ c.remainingAt now := by
  rw [remainingAt, remainingAt]
  split
  · next startedAt _ _ =>
    have helapsed := elapsedSeconds_mono startedAt le
    rw [clampSeconds, clampSeconds]
    omega
  · exact Int.le_refl _

theorem ceil_div_thousand (n : Int) : ⌈(n : ℚ) / 1000⌉ = -(-n / 1000) := Rat.ceil_intCast_div_natCast n 1000

theorem remainingAt_drop (sound : c.fields.Sound) (fits : c.fields.gameclockMax ≤ greatestSeconds)
    {now later : Int} (le : now ≤ later) :
    c.remainingAt now - c.remainingAt later ≤ ⌈((later - now : Int) : ℚ) / 1000⌉ := by
  rw [ceil_div_thousand]
  cases hrunning : c.isRunning with
  | false =>
    rw [remainingAt_of_idle hrunning, remainingAt_of_idle hrunning]
    omega
  | true =>
    obtain ⟨startedAt, hstarted, -⟩ := exists_start sound hrunning
    rw [remainingAt_of_running sound fits hrunning hstarted,
      remainingAt_of_running sound fits hrunning hstarted]
    omega

/-- At every time, the least and the greatest one included, a clock whose seconds have 32 bits shows what
it stores, or, while it runs, what the whole seconds since its start leave of that: the time that has
passed is as if times had no bounds, and so are the seconds that are left. It shows never less than nothing
nor more than it stores; as time goes on it shows no more than before, and less by no more than the seconds
that have begun in between. -/
theorem remainingAt_exact (valid : make c.id c.version c.fields = .ok c)
    (fits : c.fields.gameclockMax ≤ greatestSeconds) :
    (c.isRunning = false → ∀ now, c.remainingAt now = c.fields.gameclock) ∧
    (c.isRunning = true → ∃ startedAt, c.fields.startedAtMs = some startedAt ∧
      ∀ now, IsTime now →
        elapsedSeconds startedAt now = max 0 (now - startedAt) / 1000 ∧
        clampSeconds (c.fields.gameclock - elapsedSeconds startedAt now) =
          max 0 (c.fields.gameclock - elapsedSeconds startedAt now) ∧
        c.remainingAt now = max 0 (c.fields.gameclock - max 0 (now - startedAt) / 1000)) ∧
    (∀ now, 0 ≤ c.remainingAt now ∧ c.remainingAt now ≤ c.fields.gameclock) ∧
    c.fields.gameclock ≤ c.fields.gameclockMax ∧
    ∀ now later, now ≤ later →
      0 ≤ c.remainingAt now - c.remainingAt later ∧
        c.remainingAt now - c.remainingAt later ≤ ⌈((later - now : Int) : ℚ) / 1000⌉ := by
  have hsound := (make_eq_ok_iff.mp valid).1
  refine ⟨remainingAt_of_idle, fun running => ?_, remainingAt_mem hsound.nonneg, hsound.within,
    fun now later le => ⟨?_, remainingAt_drop hsound fits le⟩⟩
  · obtain ⟨startedAt, hstarted, hstart⟩ := exists_start hsound running
    refine ⟨startedAt, hstarted, fun now inRange => ⟨elapsedSeconds_eq hstart inRange, ?_,
      remainingAt_of_running hsound fits running hstarted now⟩⟩
    have hwithin := hsound.within
    have helapsed := elapsedSeconds_nonneg startedAt now
    exact clampSeconds_eq (by omega)
  · have hantitone := c.remainingAt_antitone le
    omega

theorem remainingAt_exact_of_least_and_greatest_time :
    let c : GameClock := ⟨1, .initial, ⟨3, greatestSeconds, greatestSeconds, .running, some 5000⟩⟩
    make c.id c.version c.fields = .ok c ∧ c.fields.gameclockMax ≤ greatestSeconds ∧
      leastTime - 5000 < leastTime ∧ c.remainingAt leastTime = greatestSeconds ∧
      c.remainingAt 6999 = greatestSeconds - 1 ∧ c.remainingAt greatestTime = 0 := by
  intro c
  have hvalid : make c.id c.version c.fields = .ok c := rfl
  obtain ⟨-, hrunning, -, -, -⟩ := remainingAt_exact hvalid (Int.le_refl _)
  obtain ⟨startedAt, hstarted, hshown⟩ := hrunning rfl
  cases hstarted
  have hleast := (hshown leastTime (by decide)).2.2
  have hearly := (hshown 6999 (by decide)).2.2
  have hgreatest := (hshown greatestTime (by decide)).2.2
  exact ⟨hvalid, Int.le_refl _, by decide, hleast.trans (by decide), hearly.trans (by decide),
    hgreatest.trans (by decide)⟩

end GameClock

end Matchday
