import Matchday.Proofs.Patches

set_option autoImplicit false

namespace Matchday

structure FixtureDraft.Sound (d : FixtureDraft) : Prop where
  trimmed : Text.trim d.title = d.title
  titled : 1 ≤ d.title.length
  short : d.title.length ≤ titleLimit
  distinct : d.teamAId ≠ d.teamBId
  week : 0 ≤ d.week

structure ScoreboardDraft.Sound (d : ScoreboardDraft) : Prop where
  scoreTeamA : 0 ≤ d.scoreTeamA
  scoreTeamB : 0 ≤ d.scoreTeamB
  period : 1 ≤ d.period

structure GameClockDraft.Sound (d : GameClockDraft) : Prop where
  positive : 0 < d.gameclockMax
  nonneg : 0 ≤ d.gameclock
  within : d.gameclock ≤ d.gameclockMax
  started : d.startedAtMs.isSome ↔ d.status = .running
  start : ∀ t ∈ d.startedAtMs, 0 ≤ t

structure PlayClockDraft.Sound (d : PlayClockDraft) : Prop where
  playclock : ∀ seconds ∈ d.playclock, 0 ≤ seconds ∧ seconds ≤ playclockLimit

theorem FixtureDraft.check_eq_ok_iff {d fields : FixtureDraft} :
    d.check = .ok fields ↔ fields = { d with title := Text.trim d.title } ∧ fields.Sound := by
  constructor
  · intro h
    have hfields := Plain.check_fixture h
    refine ⟨hfields, Plain.tidy_of_check h, ?_, ?_, ?_, ?_⟩ <;>
      simp only [check] at h <;> split_ifs at h with hempty hlong hsame hweek <;> subst hfields
    · exact Nat.one_le_iff_ne_zero.mpr fun hzero => hempty (by simpa using hzero)
    · exact Nat.le_of_not_lt hlong
    · exact hsame
    · exact Int.not_lt.mp hweek
  · rintro ⟨rfl, sound⟩
    have hempty : ¬(Text.trim d.title).isEmpty = true := by
      intro hempty
      have htitled : 1 ≤ (Text.trim d.title).length := sound.titled
      simp_all
    rw [check, if_neg hempty, if_neg (Nat.not_lt.mpr sound.short), if_neg sound.distinct,
      if_neg (Int.not_lt.mpr sound.week)]

theorem ScoreboardDraft.check_eq_ok_iff {d : ScoreboardDraft} : d.check = .ok () ↔ d.Sound := by
  constructor
  · intro h
    rw [check] at h
    split_ifs at h with hscore hperiod
    exact ⟨by omega, by omega, by omega⟩
  · rintro ⟨ha, hb, hperiod⟩
    rw [check, if_neg (by omega), if_neg (by omega)]

theorem GameClockDraft.checkStart_eq_ok_iff {status : ClockStatus} {startedAt : Option Int} :
    checkStart status startedAt = .ok () ↔
      (startedAt.isSome ↔ status = .running) ∧ ∀ t ∈ startedAt, 0 ≤ t := by
  cases status <;> cases startedAt <;> simp [checkStart]
  all_goals split_ifs <;> exact nofun

theorem GameClockDraft.check_eq_ok_iff {d : GameClockDraft} : d.check = .ok () ↔ d.Sound := by
  constructor
  · intro h
    rw [check] at h
    split_ifs at h with hmax hrange
    obtain ⟨hstarted, hstart⟩ := checkStart_eq_ok_iff.mp h
    exact ⟨by omega, by omega, by omega, hstarted, hstart⟩
  · rintro ⟨hmax, hnonneg, hwithin, hstarted, hstart⟩
    rw [check, if_neg (by omega), if_neg (by omega)]
    exact checkStart_eq_ok_iff.mpr ⟨hstarted, hstart⟩

theorem PlayClockDraft.check_eq_ok_iff {d : PlayClockDraft} : d.check = .ok () ↔ d.Sound := by
  obtain ⟨matchId, playclock, status⟩ := d
  constructor
  · intro h
    constructor
    rintro seconds ⟨⟩
    simp only [check] at h
    split_ifs at h with hrange
    omega
  · rintro ⟨hplayclock⟩
    cases playclock with
    | none => rfl
    | some seconds =>
      obtain ⟨hlow, hhigh⟩ := hplayclock seconds rfl
      simp only [check, if_neg (show ¬(seconds < 0 ∨ playclockLimit < seconds) by omega)]

theorem map_const_eq_ok_iff {ε α : Type} {e : Except ε Unit} {a b : α} :
    e.map (fun _ => a) = .ok b ↔ e = .ok () ∧ a = b := by
  cases e <;> simp [Except.map]

theorem Fixture.make_eq_ok_iff {id : Int} {d : FixtureDraft} {m : Fixture} :
    make id d = .ok m ↔
      m.id = id ∧ m.fields = { d with title := Text.trim d.title } ∧ m.fields.Sound := by
  rw [← FixtureDraft.check_eq_ok_iff, make]
  obtain ⟨n, fields⟩ := m
  cases d.check with
  | error e => simp [Except.map]
  | ok checked => simp [Except.map, eq_comm]

theorem Scoreboard.make_eq_ok_iff {id : Int} {d : ScoreboardDraft} {s : Scoreboard} :
    make id d = .ok s ↔ d.Sound ∧ ⟨id, d⟩ = s := by
  rw [make, map_const_eq_ok_iff, ScoreboardDraft.check_eq_ok_iff]

theorem GameClock.make_eq_ok_iff {id : Int} {version : Version} {d : GameClockDraft} {c : GameClock} :
    make id version d = .ok c ↔ d.Sound ∧ ⟨id, version, d⟩ = c := by
  rw [make, map_const_eq_ok_iff, GameClockDraft.check_eq_ok_iff]

theorem GameClock.withPatch_eq_ok_iff {c next : GameClock} {patch : GameClockPatch} {now : Int} :
    c.withPatch patch now = .ok next ↔
      (c.merged patch now).Sound ∧ c.advance (c.merged patch now) = next := by
  rw [withPatch, map_const_eq_ok_iff, GameClockDraft.check_eq_ok_iff]

theorem PlayClock.make_eq_ok_iff {id : Int} {version : Version} {d : PlayClockDraft} {c : PlayClock} :
    make id version d = .ok c ↔ d.Sound ∧ ⟨id, version, d⟩ = c := by
  rw [make, map_const_eq_ok_iff, PlayClockDraft.check_eq_ok_iff]

theorem PlayClock.withPatch_eq_ok_iff {c next : PlayClock} {patch : PlayClockPatch} :
    c.withPatch patch = .ok next ↔ (c.merged patch).Sound ∧ c.advance (c.merged patch) = next := by
  rw [withPatch, map_const_eq_ok_iff, PlayClockDraft.check_eq_ok_iff]

theorem elapsedSeconds_nonneg (startedAt now : Int) : 0 ≤ elapsedSeconds startedAt now :=
  Int.ediv_nonneg (Int.le_max_right _ _) (by decide)

theorem GameClockDraft.Sound.idle {d : GameClockDraft} (positive : 0 < d.gameclockMax)
    (nonneg : 0 ≤ d.gameclock) (within : d.gameclock ≤ d.gameclockMax) (idle : d.status ≠ .running)
    (unstarted : d.startedAtMs = none) : d.Sound where
  positive := positive
  nonneg := nonneg
  within := within
  started := by
    rw [unstarted]
    exact iff_of_false Bool.false_ne_true idle
  start t ht := by
    rw [unstarted] at ht
    cases ht

namespace GameClock

variable {c next : GameClock} {now : Int}

theorem remainingAt_mem (nonneg : 0 ≤ c.fields.gameclock) (now : Int) :
    0 ≤ c.remainingAt now ∧ c.remainingAt now ≤ c.fields.gameclock := by
  rw [remainingAt]
  split
  · next startedAt _ _ =>
    have helapsed := elapsedSeconds_nonneg startedAt now
    rw [clampSeconds, greatestSeconds]
    omega
  · exact ⟨nonneg, Int.le_refl _⟩

theorem sound_start (sound : c.fields.Sound) (h : c.start now = .ok next) : next.fields.Sound := by
  rw [start] at h
  split_ifs at h with hrunning hnegative
  cases h
  exact { sound with
    started := ⟨fun _ => rfl, fun _ => rfl⟩
    start := fun t ht => Option.some.inj ht ▸ Int.not_lt.mp hnegative }

theorem sound_pause (sound : c.fields.Sound) (h : c.pause now = .ok next) : next.fields.Sound := by
  rw [pause] at h
  split_ifs at h with hrunning
  cases h
  obtain ⟨hnonneg, hle⟩ := remainingAt_mem sound.nonneg now
  have hpaused : ClockStatus.paused ≠ .running := by decide
  exact .idle sound.positive hnonneg (Int.le_trans hle sound.within) hpaused rfl

theorem sound_reset (sound : c.fields.Sound) : c.reset.fields.Sound :=
  have hstopped : ClockStatus.stopped ≠ .running := by decide
  .idle sound.positive (Int.le_of_lt sound.positive) (Int.le_refl _) hstopped rfl

end GameClock

theorem PlayClock.sound_start {c next : PlayClock} {seconds : Int} (h : c.start seconds = .ok next) :
    next.fields.Sound := by
  rw [start] at h
  split_ifs at h with hrange
  cases h
  refine ⟨fun s hs => ?_⟩
  cases hs
  omega

theorem PlayClock.sound_stop (c : PlayClock) : c.stop.fields.Sound := ⟨nofun⟩

namespace WatchedTable

abbrev Row : WatchedTable → Type
  | fixture => Fixture
  | scoreboard => Scoreboard
  | gameclock => GameClock
  | playclock => PlayClock

abbrev Draft : WatchedTable → Type
  | fixture => FixtureDraft
  | scoreboard => ScoreboardDraft
  | gameclock => GameClockDraft
  | playclock => PlayClockDraft

abbrev Reason : WatchedTable → Type
  | fixture => FixtureError
  | scoreboard => ScoreboardError
  | gameclock => ClockError
  | playclock => ClockError

inductive Deed : WatchedTable → Type
  | patchFixture (patch : FixturePatch) : Deed fixture
  | patchScoreboard (patch : ScoreboardPatch) : Deed scoreboard
  | startGame (now : Int) : Deed gameclock
  | pauseGame (now : Int) : Deed gameclock
  | resetGame : Deed gameclock
  | patchGame (patch : GameClockPatch) (now : Int) : Deed gameclock
  | startPlay (seconds : Int) : Deed playclock
  | stopPlay : Deed playclock
  | patchPlay (patch : PlayClockPatch) : Deed playclock

def make : (t : WatchedTable) → Int → Version → t.Draft → Except t.Reason t.Row
  | fixture, id, _, d => Fixture.make id d
  | scoreboard, id, _, d => Scoreboard.make id d
  | gameclock, id, version, d => GameClock.make id version d
  | playclock, id, version, d => PlayClock.make id version d

def apply : (t : WatchedTable) → t.Row → Deed t → Except t.Reason t.Row
  | _, row, .patchFixture patch => Fixture.withPatch row patch
  | _, row, .patchScoreboard patch => Scoreboard.withPatch row patch
  | _, row, .startGame now => GameClock.start row now
  | _, row, .pauseGame now => GameClock.pause row now
  | _, row, .resetGame => .ok (GameClock.reset row)
  | _, row, .patchGame patch now => GameClock.withPatch row patch now
  | _, row, .startPlay seconds => PlayClock.start row seconds
  | _, row, .stopPlay => .ok (PlayClock.stop row)
  | _, row, .patchPlay patch => PlayClock.withPatch row patch

def run (t : WatchedTable) (row : t.Row) (deeds : List (Deed t)) : Except t.Reason t.Row :=
  deeds.foldlM t.apply row

def fields : (t : WatchedTable) → t.Row → t.Draft
  | fixture, row => row.fields
  | scoreboard, row => row.fields
  | gameclock, row => row.fields
  | playclock, row => row.fields

def rowId : (t : WatchedTable) → t.Row → Int
  | fixture, row => row.id
  | scoreboard, row => row.id
  | gameclock, row => row.id
  | playclock, row => row.id

def matchId? : (t : WatchedTable) → t.Draft → Option Int
  | fixture, _ => none
  | scoreboard, d => some d.matchId
  | gameclock, d => some d.matchId
  | playclock, d => some d.matchId

def version? : (t : WatchedTable) → t.Row → Option Version
  | fixture, _ => none
  | scoreboard, _ => none
  | gameclock, row => some row.version
  | playclock, row => some row.version

/-- The row made again from what it holds. -/
def remake (t : WatchedTable) (row : t.Row) : Except t.Reason t.Row :=
  t.make (t.rowId row) ((t.version? row).getD .initial) (t.fields row)

def Sound : (t : WatchedTable) → t.Draft → Prop
  | fixture, d => d.Sound
  | scoreboard, d => d.Sound
  | gameclock, d => d.Sound
  | playclock, d => d.Sound

structure Follows (t : WatchedTable) (n : Nat) (row next : t.Row) : Prop where
  sound : t.Sound (t.fields next)
  rowId : t.rowId next = t.rowId row
  matchId : t.matchId? (t.fields next) = t.matchId? (t.fields row)
  version : t.version? next = (t.version? row).map Version.next^[n]

variable {t : WatchedTable}

theorem make_eq_ok {id : Int} {version : Version} {d : t.Draft} {row : t.Row}
    (h : t.make id version d = .ok row) :
    t.Sound (t.fields row) ∧ t.rowId row = id ∧ t.matchId? (t.fields row) = t.matchId? d ∧
      ∀ v ∈ t.version? row, v = version := by
  cases t with
  | fixture =>
    change Fixture.make id d = .ok row at h
    obtain ⟨hid, -, hsound⟩ := Fixture.make_eq_ok_iff.mp h
    exact ⟨hsound, hid, rfl, nofun⟩
  | scoreboard =>
    obtain ⟨hsound, rfl⟩ := Scoreboard.make_eq_ok_iff.mp h
    exact ⟨hsound, rfl, rfl, nofun⟩
  | gameclock =>
    obtain ⟨hsound, rfl⟩ := GameClock.make_eq_ok_iff.mp h
    exact ⟨hsound, rfl, rfl, fun v hv => (Option.some.inj hv).symm⟩
  | playclock =>
    obtain ⟨hsound, rfl⟩ := PlayClock.make_eq_ok_iff.mp h
    exact ⟨hsound, rfl, rfl, fun v hv => (Option.some.inj hv).symm⟩

theorem remake_of_sound {row : t.Row} (sound : t.Sound (t.fields row)) : t.remake row = .ok row := by
  cases t with
  | fixture =>
    change Fixture.make row.id row.fields = .ok row
    refine Fixture.make_eq_ok_iff.mpr ⟨rfl, ?_, sound⟩
    have htrimmed : Text.trim row.fields.title = row.fields.title := sound.trimmed
    change row.fields = { row.fields with title := Text.trim row.fields.title }
    rw [htrimmed]
  | scoreboard => exact Scoreboard.make_eq_ok_iff.mpr ⟨sound, rfl⟩
  | gameclock => exact GameClock.make_eq_ok_iff.mpr ⟨sound, rfl⟩
  | playclock => exact PlayClock.make_eq_ok_iff.mpr ⟨sound, rfl⟩

theorem follows_apply {row next : t.Row} {deed : Deed t} (sound : t.Sound (t.fields row))
    (h : t.apply row deed = .ok next) : t.Follows 1 row next := by
  cases deed with
  | patchFixture patch =>
    change Fixture.make row.id (Fixture.merged row patch) = .ok next at h
    obtain ⟨hid, -, hsound⟩ := Fixture.make_eq_ok_iff.mp h
    exact ⟨hsound, hid, rfl, rfl⟩
  | patchScoreboard patch =>
    obtain ⟨hsound, rfl⟩ := Scoreboard.make_eq_ok_iff.mp h
    exact ⟨hsound, rfl, rfl, rfl⟩
  | startGame now =>
    obtain ⟨hid, howner, hversion⟩ := Service.advances_gameStart h
    exact ⟨GameClock.sound_start sound h, hid, congrArg some howner, congrArg some hversion⟩
  | pauseGame now =>
    obtain ⟨hid, howner, hversion⟩ := Service.advances_gamePause h
    exact ⟨GameClock.sound_pause sound h, hid, congrArg some howner, congrArg some hversion⟩
  | resetGame =>
    cases h
    exact ⟨GameClock.sound_reset sound, rfl, rfl, rfl⟩
  | patchGame patch now =>
    obtain ⟨hsound, rfl⟩ := GameClock.withPatch_eq_ok_iff.mp h
    exact ⟨hsound, rfl, rfl, rfl⟩
  | startPlay seconds =>
    obtain ⟨hid, howner, hversion⟩ := Service.advances_playStart h
    exact ⟨PlayClock.sound_start h, hid, congrArg some howner, congrArg some hversion⟩
  | stopPlay =>
    cases h
    exact ⟨PlayClock.sound_stop row, rfl, rfl, rfl⟩
  | patchPlay patch =>
    obtain ⟨hsound, rfl⟩ := PlayClock.withPatch_eq_ok_iff.mp h
    exact ⟨hsound, rfl, rfl, rfl⟩

theorem Follows.trans {n m : Nat} {row middle last : t.Row} (first : t.Follows n row middle)
    (second : t.Follows m middle last) : t.Follows (n + m) row last where
  sound := second.sound
  rowId := second.rowId.trans first.rowId
  matchId := second.matchId.trans first.matchId
  version := by
    rw [second.version, first.version, Option.map_map, Nat.add_comm, Function.iterate_add]

theorem follows_run {row last : t.Row} {deeds : List (Deed t)} (sound : t.Sound (t.fields row))
    (h : t.run row deeds = .ok last) : t.Follows deeds.length row last := by
  induction deeds generalizing row with
  | nil =>
    cases h
    exact ⟨sound, rfl, rfl, Option.map_id'.symm⟩
  | cons deed deeds ih =>
    rw [run, List.foldlM_cons] at h
    cases hnext : t.apply row deed with
    | error e =>
      rw [hnext] at h
      cases h
    | ok next =>
      rw [hnext] at h
      have hfirst := follows_apply sound hnext
      rw [List.length_cons, Nat.add_comm]
      exact hfirst.trans (ih hfirst.sound h)

end WatchedTable

theorem Version.number_iterate_next (v : Version) (n : Nat) :
    (next^[n] v).number = min (v.number + n) greatestVersion := by
  induction n with
  | zero => exact (Nat.min_eq_left v.le_greatest).symm
  | succ n ih =>
    rw [Function.iterate_succ_apply', number_next, ih]
    omega

theorem Version.ofInt_toColumn (v : Version) : ofInt v.toColumn = .ok v := by
  have hcolumn : v.toColumn = v.number := by
    have hle := v.le_greatest
    rw [toColumn]
    omega
  rw [hcolumn, ofInt_number]

/-- Whatever is done to a row that was made from a draft, so long as it succeeds: the row made again from
its own id, version and fields is the same row, its fields pass their check, its id and its match are the
first ones, and its version has risen by one each time, up to the greatest, in its column as well. -/
theorem WatchedTable.remake_run {t : WatchedTable} {id : Int} {version : Version} {d : t.Draft}
    {made row : t.Row} {deeds : List (Deed t)} (hmade : t.make id version d = .ok made)
    (hrun : t.run made deeds = .ok row) :
    t.remake row = .ok row ∧ t.Sound (t.fields row) ∧ t.rowId row = id ∧
      t.matchId? (t.fields row) = t.matchId? d ∧
      ∀ v ∈ t.version? row,
        v.number = min (version.number + deeds.length) greatestVersion ∧
          version.number ≤ v.number ∧ 1 ≤ v.number ∧ v.number ≤ greatestVersion ∧
          Version.ofInt v.toColumn = .ok v := by
  obtain ⟨hsound, hid, hmatch, hversion⟩ := make_eq_ok hmade
  have hfollows := follows_run hsound hrun
  refine ⟨remake_of_sound hfollows.sound, hfollows.sound, hfollows.rowId.trans hid,
    hfollows.matchId.trans hmatch, fun v hv => ?_⟩
  rw [hfollows.version] at hv
  obtain ⟨w, hw, rfl⟩ := Option.map_eq_some_iff.mp hv
  rw [hversion w hw, Version.number_iterate_next]
  have hone := version.one_le
  have hle := version.le_greatest
  exact ⟨rfl, by omega, by omega, by omega, Version.ofInt_toColumn _⟩

theorem WatchedTable.remake_run_of_title_and_clock :
    (∃ row, run .fixture ⟨7, ⟨1, 4, 5, "Derby", 0, none⟩⟩
        [.patchFixture { title := some "\u3000Final\u00a0" }] = .ok row ∧
      row.fields.title = "Final" ∧ remake .fixture row = .ok row) ∧
    ∃ row, run .gameclock ⟨5, .greatest, .full 3 600⟩
        [.startGame 1000, .patchGame { gameclock := some 20 } 9000, .pauseGame (-9223372036854775808)] =
          .ok row ∧
      row.fields.gameclock = 20 ∧ row.version = .greatest ∧ remake .gameclock row = .ok row := by
  have hfixture : make .fixture 7 .initial ⟨1, 4, 5, "\u00a0Derby ", 0, none⟩ =
      .ok ⟨7, ⟨1, 4, 5, "Derby", 0, none⟩⟩ := by rfl
  have hpatched : run .fixture ⟨7, ⟨1, 4, 5, "Derby", 0, none⟩⟩
      [.patchFixture { title := some "\u3000Final\u00a0" }] =
        .ok ⟨7, ⟨1, 4, 5, "Final", 0, none⟩⟩ := by rfl
  have hclock : make .gameclock 5 .greatest (.full 3 600) = .ok ⟨5, .greatest, .full 3 600⟩ := rfl
  have hpaused : run .gameclock ⟨5, .greatest, .full 3 600⟩
      [.startGame 1000, .patchGame { gameclock := some 20 } 9000, .pauseGame (-9223372036854775808)] =
        .ok ⟨5, .greatest, ⟨3, 20, 600, .paused, none⟩⟩ := rfl
  exact ⟨⟨_, hpatched, rfl, (remake_run hfixture hpatched).1⟩,
    ⟨_, hpaused, rfl, rfl, (remake_run hclock hpaused).1⟩⟩

end Matchday
