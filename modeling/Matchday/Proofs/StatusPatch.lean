import Matchday.Proofs.Entities

set_option autoImplicit false

namespace Matchday

theorem elapsedSeconds_self (now : Int) : elapsedSeconds now now = 0 := by
  rw [elapsedSeconds, saturateTime, leastTime, greatestTime]
  omega

theorem elapsedSeconds_eq_zero_iff {startedAt now : Int} :
    elapsedSeconds startedAt now = 0 ↔ now - startedAt < 1000 := by
  rw [elapsedSeconds, saturateTime, leastTime, greatestTime]
  omega

theorem clampSeconds_of_mem {seconds : Int} (nonneg : 0 ≤ seconds) (le : seconds ≤ greatestSeconds) :
    clampSeconds seconds = seconds := by
  rw [clampSeconds, Int.max_eq_left nonneg, Int.min_eq_left le]

namespace GameClock

variable {c next : GameClock} {now : Int}

theorem withPatch_running (sound : c.fields.Sound) (idle : c.isRunning = false) (now : Int) :
    c.withPatch { status := some .running } now = c.start now := by
  have hnone : c.fields.startedAtMs = none := by
    refine Option.not_isSome_iff_eq_none.mp fun hsome => ?_
    rw [isRunning, sound.started.mp hsome] at idle
    exact absurd idle (by decide)
  have hmerged : c.merged { status := some .running } now =
      { c.fields with status := .running, startedAtMs := some now } := by
    simp [merged, hnone]
  have hcheck : (c.merged { status := some .running } now).check =
      if now < 0 then .error .negativeStart else .ok () := by
    have hmax := sound.positive
    have hnonneg := sound.nonneg
    have hwithin := sound.within
    rw [hmerged, GameClockDraft.check, if_neg (by simpa using hmax), if_neg (by simp; omega)]
    rfl
  have hstart : c.start now = if now < 0 then .error .negativeStart else
      .ok (c.advance { c.fields with status := .running, startedAtMs := some now }) := by
    rw [start, idle]
    rfl
  rw [withPatch, hcheck, hmerged, hstart]
  split_ifs <;> rfl

theorem remainingAt_start (sound : c.fields.Sound) (fits : c.fields.gameclock ≤ greatestSeconds)
    (h : c.start now = .ok next) : next.remainingAt now = c.remainingAt now := by
  rw [start] at h
  split_ifs at h with hrunning hnegative
  cases h
  have hidle : c.remainingAt now = c.fields.gameclock := by
    rw [remainingAt]
    split
    · next hstatus _ =>
      exact absurd hstatus fun hstatus => hrunning (by rw [isRunning, hstatus]; rfl)
    · rfl
  rw [hidle, remainingAt]
  simp only [advance, elapsedSeconds_self, Int.sub_zero, clampSeconds_of_mem sound.nonneg fits]

theorem pause_of_running (running : c.isRunning = true) (now : Int) :
    c.pause now = .ok (c.advance
      { c.fields with gameclock := c.remainingAt now, status := .paused, startedAtMs := none }) := by
  rw [pause, if_pos running]

theorem withPatch_paused (sound : c.fields.Sound) (now : Int) :
    c.withPatch { status := some .paused } now =
      .ok (c.advance { c.fields with status := .paused, startedAtMs := none }) := by
  have hmerged : c.merged { status := some .paused } now =
      { c.fields with status := .paused, startedAtMs := none } := rfl
  have hpaused : ClockStatus.paused ≠ .running := by decide
  rw [withPatch_eq_ok_iff, hmerged]
  exact ⟨.idle sound.positive sound.nonneg sound.within hpaused rfl, rfl⟩

theorem remainingAt_eq_iff (sound : c.fields.Sound) (fits : c.fields.gameclock ≤ greatestSeconds) :
    c.remainingAt now = c.fields.gameclock ↔
      c.fields.gameclock = 0 ∨ ∀ startedAt ∈ c.fields.startedAtMs, now - startedAt < 1000 := by
  have hnonneg := sound.nonneg
  rw [remainingAt]
  split
  · next startedAt _ hstarted =>
    have helapsed := elapsedSeconds_nonneg startedAt now
    rw [hstarted]
    simp only [Option.mem_some_iff, forall_eq', ← elapsedSeconds_eq_zero_iff]
    rw [clampSeconds]
    omega
  · next hidle =>
    refine iff_of_true rfl (.inr fun startedAt hstarted => ?_)
    exact (hidle startedAt (sound.started.mp (Option.isSome_of_mem hstarted)) hstarted).elim

/-- For a clock whose seconds have 32 bits: a patch to running comes to the same as a start, and neither
moves what the clock shows. A pause keeps what it shows; a patch to paused differs from it in the seconds
alone, of which it leaves those that were stored, so that the two agree exactly if the clock still shows
them: until the first whole second has run off, or if there are none. -/
theorem status_patch (valid : make c.id c.version c.fields = .ok c)
    (fits : c.fields.gameclock ≤ greatestSeconds) (now : Int) :
    (c.isRunning = false →
      c.withPatch { status := some .running } now = c.start now ∧
        ∀ next, c.start now = .ok next → next.remainingAt now = c.remainingAt now) ∧
    (c.isRunning = true →
      ∃ paused patched, c.pause now = .ok paused ∧
        c.withPatch { status := some .paused } now = .ok patched ∧
        patched = { paused with fields := { paused.fields with gameclock := c.fields.gameclock } } ∧
        paused.remainingAt now = c.remainingAt now ∧ patched.remainingAt now = c.fields.gameclock ∧
        (patched = paused ↔ c.fields.gameclock = 0 ∨
          ∀ startedAt ∈ c.fields.startedAtMs, now - startedAt < 1000)) := by
  have hsound := (make_eq_ok_iff.mp valid).1
  refine ⟨fun idle => ⟨withPatch_running hsound idle now, fun next h => ?_⟩, fun running => ?_⟩
  · exact remainingAt_start hsound fits h
  · refine ⟨_, _, pause_of_running running now, withPatch_paused hsound now, rfl, rfl, rfl, ?_⟩
    rw [← remainingAt_eq_iff hsound fits]
    constructor
    · intro h
      exact (congrArg (fun d : GameClock => d.fields.gameclock) h).symm
    · intro h
      rw [h]

theorem status_patch_of_run :
    ∃ running patched paused : GameClock,
      GameClock.start ⟨1, .initial, .full 3 600⟩ 0 = .ok running ∧
        running.withPatch { status := some .paused } 15500 = .ok patched ∧
        running.pause 15500 = .ok paused ∧ patched.remainingAt 15500 = 600 ∧
        paused.remainingAt 15500 = 585 ∧ patched ≠ paused := by
  let running : GameClock := ⟨1, Version.initial.next, ⟨3, 600, 600, .running, some 0⟩⟩
  obtain ⟨paused, patched, hpaused, hpatched, -, hshown, hshownPatched, hagree⟩ :=
    (status_patch (c := running) rfl (by decide) 15500).2 rfl
  refine ⟨running, patched, paused, rfl, hpatched, hpaused, hshownPatched, hshown, fun h => ?_⟩
  rcases hagree.mp h with hzero | hearly
  · exact absurd hzero (by decide)
  · exact absurd (hearly 0 rfl) (by decide)

theorem withPatch_paused_ne_pause :
    ¬∀ (c : GameClock) (now : Int), make c.id c.version c.fields = .ok c → c.isRunning = true →
      c.withPatch { status := some .paused } now = c.pause now := by
  intro h
  have hrun := h ⟨1, Version.initial.next, ⟨3, 600, 600, .running, some 0⟩⟩ 15500 rfl rfl
  exact absurd hrun (by decide)

end GameClock

end Matchday
