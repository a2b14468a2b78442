import Matchday.Proofs.Countdown
import Mathlib.Algebra.Order.BigOperators.Group.List
import Mathlib.Data.List.Chain

set_option autoImplicit false

namespace Matchday

structure Spell where
  startedAt : Int
  pausedAt : Int
  deriving DecidableEq, Repr

namespace Spell

def millis (s : Spell) : Int := s.pausedAt - s.startedAt

def seconds (s : Spell) : Int := s.millis / 1000

theorem sum_seconds (spells : List Spell) :
    1000 * (spells.map seconds).sum ≤ (spells.map millis).sum ∧
      (spells.map millis).sum ≤ 1000 * (spells.map seconds).sum + 999 * spells.length := by
  induction spells with
  | nil => exact ⟨Int.le_refl _, Int.le_refl _⟩
  | cons s rest ih =>
    have hseconds : s.seconds = s.millis / 1000 := rfl
    simp only [List.map_cons, List.sum_cons, List.length_cons]
    omega

end Spell

namespace GameClock

/-- A start or a pause at a time. -/
inductive Switch
  | start (time : Int)
  | pause (time : Int)
  deriving DecidableEq, Repr

namespace Switch

def time : Switch → Int
  | start t => t
  | pause t => t

def deed : Switch → WatchedTable.Deed .gameclock
  | start t => .startGame t
  | pause t => .pauseGame t

end Switch

def switch (c : GameClock) (s : Switch) : Except ClockError GameClock :=
  WatchedTable.apply .gameclock c s.deed

def switchAll (c : GameClock) (switches : List Switch) : Except ClockError GameClock :=
  WatchedTable.run .gameclock c (switches.map Switch.deed)

/-- What the clock shows at a time at which all switches up to then have been made. -/
def shownAt (c : GameClock) (switches : List Switch) (now : Int) : Except ClockError Int :=
  (c.switchAll (switches.takeWhile fun s => s.time ≤ now)).map fun reached => reached.remainingAt now

variable {c next last : GameClock} {s : Switch} {switches : List Switch}

theorem switchAll_cons (c : GameClock) (s : Switch) (rest : List Switch) :
    c.switchAll (s :: rest) = (c.switch s).bind fun next => next.switchAll rest := by
  rw [switchAll, WatchedTable.run, List.map_cons, List.foldlM_cons]
  rfl

theorem switchAll_cons_eq_ok {rest : List Switch} :
    c.switchAll (s :: rest) = .ok last ↔ ∃ next, c.switch s = .ok next ∧ next.switchAll rest = .ok last := by
  rw [switchAll_cons]
  cases c.switch s <;> simp [Except.bind]

theorem switchAll_append (c : GameClock) (earlier later : List Switch) :
    c.switchAll (earlier ++ later) = (c.switchAll earlier).bind fun reached => reached.switchAll later := by
  rw [switchAll, WatchedTable.run, List.map_append, List.foldlM_append]
  rfl

theorem switchAll_append_eq_ok {earlier later : List Switch} :
    c.switchAll (earlier ++ later) = .ok last ↔
      ∃ reached, c.switchAll earlier = .ok reached ∧ reached.switchAll later = .ok last := by
  rw [switchAll_append]
  cases c.switchAll earlier <;> simp [Except.bind]

structure Fit (c : GameClock) : Prop where
  sound : c.fields.Sound
  fits : c.fields.gameclockMax ≤ greatestSeconds

theorem Fit.switch (fit : c.Fit) (h : c.switch s = .ok next) : next.Fit := by
  refine ⟨(WatchedTable.follows_apply (t := .gameclock) fit.sound h).sound, ?_⟩
  cases s with
  | start t =>
    change c.start t = .ok next at h
    rw [start] at h
    split_ifs at h
    cases h
    exact fit.fits
  | pause t =>
    change c.pause t = .ok next at h
    rw [pause] at h
    split_ifs at h
    cases h
    exact fit.fits

theorem Fit.switchAll (fit : c.Fit) (run : c.switchAll switches = .ok last) : last.Fit := by
  induction switches generalizing c with
  | nil =>
    cases run
    exact fit
  | cons s rest ih =>
    obtain ⟨next, hswitch, hrest⟩ := switchAll_cons_eq_ok.mp run
    exact ih (fit.switch hswitch) hrest

theorem Fit.remainingAt_switch (fit : c.Fit) (h : c.switch s = .ok next) :
    next.remainingAt s.time = c.remainingAt s.time := by
  cases s with
  | start t => exact remainingAt_start fit.sound (Int.le_trans fit.sound.within fit.fits) h
  | pause t =>
    change c.pause t = .ok next at h
    rw [pause] at h
    split_ifs at h
    cases h
    rfl

theorem shownAt_of_before {now : Int} (before : now < s.time) (c : GameClock) (rest : List Switch) :
    c.shownAt (s :: rest) now = .ok (c.remainingAt now) := by
  rw [shownAt, List.takeWhile_cons_of_neg (by simpa using before)]
  rfl

theorem shownAt_of_switched {now : Int} (switched : s.time ≤ now) (h : c.switch s = .ok next)
    (rest : List Switch) : c.shownAt (s :: rest) now = next.shownAt rest now := by
  rw [shownAt, List.takeWhile_cons_of_pos (by simpa using switched), switchAll_cons, h]
  rfl

theorem Fit.exists_shownAt (fit : c.Fit) (run : c.switchAll switches = .ok last) {earlier now : Int}
    (ordered : (earlier :: switches.map Switch.time).IsChain (· ≤ ·)) (le : earlier ≤ now) :
    ∃ shown, c.shownAt switches now = .ok shown ∧ shown ≤ c.remainingAt earlier := by
  induction switches generalizing c earlier with
  | nil => exact ⟨_, rfl, c.remainingAt_antitone le⟩
  | cons s rest ih =>
    obtain ⟨hearlier, hordered⟩ := List.isChain_cons_cons.mp ordered
    obtain ⟨next, hswitch, hrest⟩ := switchAll_cons_eq_ok.mp run
    rcases Int.lt_or_le now s.time with hbefore | hswitched
    · exact ⟨_, shownAt_of_before hbefore c rest, c.remainingAt_antitone le⟩
    · obtain ⟨shown, hshown, hle⟩ := ih (fit.switch hswitch) hrest hordered hswitched
      refine ⟨shown, (shownAt_of_switched hswitched hswitch rest).trans hshown, ?_⟩
      rw [fit.remainingAt_switch hswitch] at hle
      exact Int.le_trans hle (c.remainingAt_antitone hearlier)

theorem Fit.shownAt_antitone (fit : c.Fit) (run : c.switchAll switches = .ok last)
    (ordered : (switches.map Switch.time).IsChain (· ≤ ·)) {now later : Int} (le : now ≤ later) :
    ∃ shown less, c.shownAt switches now = .ok shown ∧ c.shownAt switches later = .ok less ∧
      less ≤ shown := by
  induction switches generalizing c with
  | nil => exact ⟨_, _, rfl, rfl, c.remainingAt_antitone le⟩
  | cons s rest ih =>
    obtain ⟨next, hswitch, hrest⟩ := switchAll_cons_eq_ok.mp run
    have hfit := fit.switch hswitch
    rcases Int.lt_or_le later s.time with hlater | hswitched
    · exact ⟨_, _, shownAt_of_before (Int.lt_of_le_of_lt le hlater) c rest,
        shownAt_of_before hlater c rest, c.remainingAt_antitone le⟩
    · rw [shownAt_of_switched hswitched hswitch]
      rcases Int.lt_or_le now s.time with hbefore | hboth
      · -- The switch lies between the two times: what is shown at it is shown on both sides.
        obtain ⟨less, hless, hle⟩ := hfit.exists_shownAt hrest ordered hswitched
        refine ⟨_, less, shownAt_of_before hbefore c rest, hless, ?_⟩
        rw [fit.remainingAt_switch hswitch] at hle
        exact Int.le_trans hle (c.remainingAt_antitone (Int.le_of_lt hbefore))
      · rw [shownAt_of_switched hboth hswitch]
        exact ih hfit hrest ordered.tail

/-- The fields of a clock that is paused when so many seconds have run off. -/
def bankedFields (d : GameClockDraft) (seconds : Int) : GameClockDraft :=
  { d with gameclock := max 0 (d.gameclock - seconds), status := .paused, startedAtMs := none }

theorem bankedFields_bankedFields (d : GameClockDraft) (first : Int) {later : Int} (nonneg : 0 ≤ later) :
    bankedFields (bankedFields d first) later = bankedFields d (first + later) := by
  have hclamp : max 0 (max 0 (d.gameclock - first) - later) = max 0 (d.gameclock - (first + later)) := by
    omega
  simp only [bankedFields, hclamp]

def banked (c : GameClock) (s : Spell) : GameClock :=
  ⟨c.id, c.version.next.next, bankedFields c.fields s.seconds⟩

def switchesOf (spells : List Spell) : List Switch :=
  spells.flatMap fun s => [.start s.startedAt, .pause s.pausedAt]

theorem length_switchesOf (spells : List Spell) : (switchesOf spells).length = 2 * spells.length := by
  rw [switchesOf, List.length_flatMap]
  simp [Nat.mul_comm]

theorem start_of_idle (idle : c.isRunning = false) {t : Int} (nonneg : 0 ≤ t) :
    c.start t = .ok (c.advance { c.fields with status := .running, startedAtMs := some t }) := by
  rw [start, idle, if_neg Bool.false_ne_true, if_neg (Int.not_lt.mpr nonneg)]

theorem Fit.switchAll_spell (fit : c.Fit) (idle : c.isRunning = false) {spell : Spell}
    (nonneg : 0 ≤ spell.startedAt) (le : spell.startedAt ≤ spell.pausedAt) :
    c.switchAll (switchesOf [spell]) = .ok (c.banked spell) := by
  let running := c.advance { c.fields with status := .running, startedAtMs := some spell.startedAt }
  have hstart : c.start spell.startedAt = .ok running := start_of_idle idle nonneg
  have hrunning : running.isRunning = true := rfl
  have hfit : running.Fit := fit.switch (s := .start spell.startedAt) hstart
  have hpause := pause_of_running hrunning spell.pausedAt
  rw [remainingAt_of_running hfit.sound hfit.fits hrunning rfl] at hpause
  refine switchAll_cons_eq_ok.mpr ⟨_, hstart, switchAll_cons_eq_ok.mpr ⟨_, hpause, ?_⟩⟩
  have hmax : max 0 (spell.pausedAt - spell.startedAt) = spell.millis :=
    Int.max_eq_right (Int.sub_nonneg_of_le le)
  rw [hmax]
  rfl

theorem Fit.banked (fit : c.Fit) (idle : c.isRunning = false) {spell : Spell}
    (nonneg : 0 ≤ spell.startedAt) (le : spell.startedAt ≤ spell.pausedAt) : (c.banked spell).Fit :=
  fit.switchAll (fit.switchAll_spell idle nonneg le)

/-- Each spell starts when the one before is over, and is over no sooner than it has started. -/
def Ordered (earlier : Int) (spells : List Spell) : Prop :=
  (earlier :: (switchesOf spells).map Switch.time).IsChain (· ≤ ·)

theorem ordered_cons {earlier : Int} {spell : Spell} {rest : List Spell} :
    Ordered earlier (spell :: rest) ↔
      earlier ≤ spell.startedAt ∧ spell.startedAt ≤ spell.pausedAt ∧ Ordered spell.pausedAt rest := by
  rw [Ordered, switchesOf, List.flatMap_cons]
  simp only [List.cons_append, List.nil_append, List.map_cons, List.isChain_cons_cons]
  rfl

theorem Fit.switchAll_spells (fit : c.Fit) (idle : c.isRunning = false) {spells : List Spell}
    {earlier : Int} (nonneg : 0 ≤ earlier) (ordered : Ordered earlier spells) :
    c.switchAll (switchesOf spells) = .ok (spells.foldl GameClock.banked c) := by
  induction spells generalizing c earlier with
  | nil => rfl
  | cons spell rest ih =>
    obtain ⟨hearlier, hle, hordered⟩ := ordered_cons.mp ordered
    have hstarted := Int.le_trans nonneg hearlier
    have hsplit : switchesOf (spell :: rest) = switchesOf [spell] ++ switchesOf rest := rfl
    rw [hsplit, switchAll_append, fit.switchAll_spell idle hstarted hle]
    exact ih (fit.banked idle hstarted hle) rfl (Int.le_trans hstarted hle) hordered

theorem Ordered.seconds_nonneg {spells : List Spell} {earlier : Int} (ordered : Ordered earlier spells) :
    ∀ spell ∈ spells, 0 ≤ spell.seconds := by
  induction spells generalizing earlier with
  | nil => exact nofun
  | cons spell rest ih =>
    obtain ⟨-, hle, hordered⟩ := ordered_cons.mp ordered
    have hspell : 0 ≤ spell.seconds := Int.ediv_nonneg (Int.sub_nonneg_of_le hle) (by decide)
    exact List.forall_mem_cons.mpr ⟨hspell, ih hordered⟩

theorem fields_foldl_banked (c : GameClock) (first : Spell) {rest : List Spell}
    (nonneg : ∀ spell ∈ rest, 0 ≤ spell.seconds) :
    ((first :: rest).foldl banked c).fields =
      bankedFields c.fields ((first :: rest).map Spell.seconds).sum := by
  induction rest generalizing c first with
  | nil =>
    rw [List.map_singleton, List.sum_singleton]
    rfl
  | cons second rest ih =>
    have hsum : 0 ≤ ((second :: rest).map Spell.seconds).sum :=
      List.sum_nonneg (List.forall_mem_map.mpr nonneg)
    have hfirst : ((first :: second :: rest).map Spell.seconds).sum =
        first.seconds + ((second :: rest).map Spell.seconds).sum := List.sum_cons
    rw [List.foldl_cons, ih (c.banked first) second fun s hs => nonneg s (List.mem_cons_of_mem _ hs), hfirst]
    exact bankedFields_bankedFields _ _ hsum

/-- A clock that does not run, whose seconds have 32 bits, is started and paused any number of times, each
start no earlier than the pause before it and each pause no earlier than its start. All of this succeeds
and leaves the clock paused, of the same match and the same full time, two versions on for each spell, and
with the seconds that the whole seconds of each spell leave of its own; that is at least what the whole
seconds of all the running time would leave, and more by less than a second for each spell. At any later
time the clock shows no more than at an earlier one, and a start or a pause does not move what it shows. -/
theorem pauses_bank_seconds (valid : make c.id c.version c.fields = .ok c)
    (fits : c.fields.gameclockMax ≤ greatestSeconds) (idle : c.isRunning = false) {spells : List Spell}
    (played : spells ≠ []) (ordered : Ordered 0 spells) :
    let left (seconds : Int) : Int := max 0 (c.fields.gameclock - seconds)
    let total := left ((spells.map Spell.millis).sum / 1000)
    (∃ last, c.switchAll (switchesOf spells) = .ok last ∧ last.id = c.id ∧
      last.version.number = min (c.version.number + 2 * spells.length) greatestVersion ∧
      last.fields.matchId = c.fields.matchId ∧ last.fields.gameclockMax = c.fields.gameclockMax ∧
      last.fields.status = .paused ∧ last.fields.startedAtMs = none ∧
      last.fields.gameclock = left (spells.map Spell.seconds).sum ∧
      total ≤ last.fields.gameclock ∧ last.fields.gameclock ≤ total + (spells.length - 1)) ∧
    (∀ earlier s later, switchesOf spells = earlier ++ s :: later →
      ∃ before after, c.switchAll earlier = .ok before ∧ before.switch s = .ok after ∧
        after.remainingAt s.time = before.remainingAt s.time) ∧
    ∀ now later, now ≤ later →
      ∃ shown less, c.shownAt (switchesOf spells) now = .ok shown ∧
        c.shownAt (switchesOf spells) later = .ok less ∧ less ≤ shown := by
  intro left total
  have hfit : c.Fit := ⟨(make_eq_ok_iff.mp valid).1, fits⟩
  have hrun := hfit.switchAll_spells idle (Int.le_refl 0) ordered
  obtain ⟨first, rest, rfl⟩ := List.exists_cons_of_ne_nil played
  have hfollows := WatchedTable.follows_run (t := .gameclock) hfit.sound hrun
  have hfields := fields_foldl_banked c first fun s hs =>
    ordered.seconds_nonneg s (List.mem_cons_of_mem _ hs)
  refine ⟨⟨_, hrun, hfollows.rowId, ?_⟩, ?_, ?_⟩
  · have hversion := Option.some.inj hfollows.version
    have hsums := Spell.sum_seconds (first :: rest)
    rw [hfields, hversion, Version.number_iterate_next, List.length_map,
      length_switchesOf]
    refine ⟨rfl, rfl, rfl, rfl, rfl, rfl, ?_, ?_⟩
    · simp only [total, left, bankedFields]
      omega
    · simp only [total, left, bankedFields]
      rw [List.length_cons] at hsums ⊢
      omega
  · intro earlier s later hsplit
    rw [hsplit] at hrun
    obtain ⟨before, hbefore, hrest⟩ := switchAll_append_eq_ok.mp hrun
    obtain ⟨after, hafter, -⟩ := switchAll_cons_eq_ok.mp hrest
    exact ⟨before, after, hbefore, hafter, (hfit.switchAll hbefore).remainingAt_switch hafter⟩
  · intro now later le
    exact hfit.shownAt_antitone hrun ordered.tail le

/-- Two spells of a second and a half take off two seconds, where their running time has three. -/
theorem pauses_bank_seconds_of_halves :
    let c : GameClock := ⟨5, .initial, .full 3 600⟩
    let spells : List Spell := [⟨0, 1500⟩, ⟨2000, 3500⟩]
    make c.id c.version c.fields = .ok c ∧ c.fields.gameclockMax ≤ greatestSeconds ∧
      c.isRunning = false ∧ spells ≠ [] ∧ Ordered 0 spells ∧
      (∃ last, c.switchAll (switchesOf spells) = .ok last ∧ last.version.number = 5 ∧
        last.fields.gameclock = 598) ∧
      max 0 (c.fields.gameclock - (spells.map Spell.millis).sum / 1000) = 597 ∧
      ∃ shown less, c.shownAt (switchesOf spells) 1499 = .ok shown ∧
        c.shownAt (switchesOf spells) 3500 = .ok less ∧ less ≤ shown := by
  intro c spells
  have hvalid : make c.id c.version c.fields = .ok c := rfl
  have hfits : c.fields.gameclockMax ≤ greatestSeconds := by decide
  have hordered : Ordered 0 spells :=
    ordered_cons.mpr ⟨by decide, by decide, ordered_cons.mpr ⟨by decide, by decide, .singleton _⟩⟩
  obtain ⟨⟨last, hrun, -, hversion, -, -, -, -, hseconds, -, -⟩, -, hshown⟩ :=
    pauses_bank_seconds hvalid hfits rfl (List.cons_ne_nil _ _) hordered
  exact ⟨hvalid, hfits, rfl, List.cons_ne_nil _ _, hordered,
    ⟨last, hrun, hversion.trans (by decide), hseconds.trans (by decide)⟩, by decide,
    hshown 1499 3500 (by decide)⟩

end GameClock

end Matchday
