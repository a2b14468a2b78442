import Matchday.Proofs.Discipline
import Matchday.Service.Parts
import Matchday.Service.Throttle

set_option autoImplicit false

namespace Matchday.Service

open Matchday

inductive Command
  | getFixture (id : Int)
  | createFixture (draft : FixtureDraft)
  | updateFixture (id : Int) (patch : FixturePatch)
  | deleteFixture (id : Int)
  | getPart (p : Part) (id : Int)
  | getPartByMatch (p : Part) (matchId : Int)
  | deletePart (p : Part) (id : Int)
  | createScoreboard (draft : ScoreboardDraft)
  | updateScoreboard (id : Int) (patch : ScoreboardPatch)
  | createGameClock (draft : GameClockDraft)
  | updateGameClock (id : Int) (patch : GameClockPatch) (expected : Option Version)
  | startGameClock (id : Int) (expected : Option Version)
  | pauseGameClock (id : Int) (expected : Option Version)
  | resetGameClock (id : Int) (expected : Option Version)
  | createPlayClock (draft : PlayClockDraft)
  | updatePlayClock (id : Int) (patch : PlayClockPatch) (expected : Option Version)
  | startPlayClock (id : Int) (seconds : Int) (expected : Option Version)
  | stopPlayClock (id : Int) (expected : Option Version)
  | getThrottle (matchId : Int)
  | touchThrottle (matchId : Int) (time : Option Instant)
  | acquireThrottle (interval : Duration) (matchId : Int)
  | clearThrottle (matchId : Int)

def Advances (k : ClockKind) (row next : k.Row) : Prop :=
  k.part.rowId next = k.part.rowId row ∧ k.part.ownerId next = k.part.ownerId row ∧
    k.version next = (k.version row).next

structure ClockOrder (k : ClockKind) where
  id : Int
  expected : Option Version
  step : k.Row → Except ClockError k.Row

theorem advances_gamePatch {row next : GameClock} {patch : GameClockPatch} {now : Int}
    (h : GameClock.withPatch row patch now = .ok next) : Advances .game row next := by
  rw [GameClock.withPatch] at h
  cases hc : (row.merged patch now).check <;> rw [hc] at h <;> cases h
  exact ⟨rfl, rfl, rfl⟩

theorem advances_gameStart {row next : GameClock} {now : Int}
    (h : GameClock.start row now = .ok next) : Advances .game row next := by
  rw [GameClock.start] at h
  split_ifs at h
  cases h
  exact ⟨rfl, rfl, rfl⟩

theorem advances_gamePause {row next : GameClock} {now : Int}
    (h : GameClock.pause row now = .ok next) : Advances .game row next := by
  rw [GameClock.pause] at h
  split_ifs at h
  cases h
  exact ⟨rfl, rfl, rfl⟩

theorem advances_gameReset {row next : GameClock} (h : (.ok row.reset : Except ClockError _) = .ok next) :
    Advances .game row next := by
  cases h
  exact ⟨rfl, rfl, rfl⟩

theorem advances_playPatch {row next : PlayClock} {patch : PlayClockPatch}
    (h : PlayClock.withPatch row patch = .ok next) : Advances .play row next := by
  rw [PlayClock.withPatch] at h
  cases hc : (row.merged patch).check <;> rw [hc] at h <;> cases h
  exact ⟨rfl, rfl, rfl⟩

theorem advances_playStart {row next : PlayClock} {seconds : Int}
    (h : PlayClock.start row seconds = .ok next) : Advances .play row next := by
  rw [PlayClock.start] at h
  split_ifs at h
  cases h
  exact ⟨rfl, rfl, rfl⟩

theorem advances_playStop {row next : PlayClock} (h : (.ok row.stop : Except ClockError _) = .ok next) :
    Advances .play row next := by
  cases h
  exact ⟨rfl, rfl, rfl⟩

theorem withPatch_fixture {row next : Fixture} {patch : FixturePatch}
    (h : row.withPatch patch = .ok next) :
    next.id = row.id ∧ (row.merged patch).check = .ok next.fields := by
  rw [Fixture.withPatch, Fixture.make] at h
  cases hc : (row.merged patch).check <;> rw [hc] at h <;> cases h
  exact ⟨rfl, rfl⟩

theorem withPatch_scoreboard {row next : Scoreboard} {patch : ScoreboardPatch}
    (h : Scoreboard.withPatch row patch = .ok next) :
    next.id = row.id ∧ next.fields.matchId = row.fields.matchId := by
  rw [Scoreboard.withPatch, Scoreboard.make] at h
  cases hc : (row.merged patch).check <;> rw [hc] at h <;> cases h
  exact ⟨rfl, rfl⟩

theorem make_scoreboard {draft : ScoreboardDraft} {u : Unit} (h : draft.check = .ok u) (id : Int) :
    ∃ row, Part.make .scoreboard id draft = .ok row :=
  ⟨⟨id, draft⟩, by simp [Part.make, Scoreboard.make, h, Except.map, Except.mapError]⟩

theorem make_gameclock {draft : GameClockDraft} {u : Unit} (h : draft.check = .ok u) (id : Int) :
    ∃ row, Part.make .gameclock id draft = .ok row :=
  ⟨⟨id, .initial, draft⟩, by simp [Part.make, GameClock.make, h, Except.map, Except.mapError]⟩

theorem make_playclock {draft : PlayClockDraft} {u : Unit} (h : draft.check = .ok u) (id : Int) :
    ∃ row, Part.make .playclock id draft = .ok row :=
  ⟨⟨id, .initial, draft⟩, by simp [Part.make, PlayClock.make, h, Except.map, Except.mapError]⟩

namespace Command

abbrev Result : Command → Type
  | getFixture _ | createFixture _ | updateFixture _ _ | deleteFixture _ => Fixture
  | getPart p _ | getPartByMatch p _ | deletePart p _ => p.Row
  | createScoreboard _ | updateScoreboard _ _ => Scoreboard
  | createGameClock _ | updateGameClock _ _ _ | startGameClock _ _ | pauseGameClock _ _
  | resetGameClock _ _ => GameClock
  | createPlayClock _ | updatePlayClock _ _ _ | startPlayClock _ _ _ | stopPlayClock _ _ => PlayClock
  | getThrottle _ | touchThrottle _ _ => ThrottleRecord
  | acquireThrottle _ _ => ThrottleDecision
  | clearThrottle _ => Unit

def action : (c : Command) → Action c.Result
  | getFixture id => Service.getFixture id
  | createFixture draft => Service.createFixture draft
  | updateFixture id patch => Service.updateFixture id patch
  | deleteFixture id => Service.deleteFixture id
  | getPart p id => Service.getPart p id
  | getPartByMatch p matchId => Service.getPartByMatch p matchId
  | deletePart p id => Service.deletePart p id
  | createScoreboard draft => Service.createScoreboard draft
  | updateScoreboard id patch => Service.updateScoreboard id patch
  | createGameClock draft => Service.createGameClock draft
  | updateGameClock id patch expected => Service.updateGameClock id patch expected
  | startGameClock id expected => Service.startGameClock id expected
  | pauseGameClock id expected => Service.pauseGameClock id expected
  | resetGameClock id expected => Service.resetGameClock id expected
  | createPlayClock draft => Service.createPlayClock draft
  | updatePlayClock id patch expected => Service.updatePlayClock id patch expected
  | startPlayClock id seconds expected => Service.startPlayClock id seconds expected
  | stopPlayClock id expected => Service.stopPlayClock id expected
  | getThrottle matchId => Service.getThrottle matchId
  | touchThrottle matchId time => Service.touchThrottle matchId time
  | acquireThrottle interval matchId => Service.acquireThrottle interval matchId
  | clearThrottle matchId => Service.clearThrottle matchId

def mutates : Command → Bool
  | getFixture _ | getPart _ _ | getPartByMatch _ _ => false
  | getThrottle _ | touchThrottle _ _ | acquireThrottle _ _ | clearThrottle _ => false
  | _ => true

/-- The transition that a command asks for after what it has read off the clock. -/
def order? : Command → List Instant → (k : ClockKind) → Option (ClockOrder k)
  | updateGameClock id patch expected, [now], .game =>
    some ⟨id, expected, fun c => GameClock.withPatch c patch now.toMillis⟩
  | startGameClock id expected, [now], .game =>
    some ⟨id, expected, fun c => GameClock.start c now.toMillis⟩
  | pauseGameClock id expected, [now], .game =>
    some ⟨id, expected, fun c => GameClock.pause c now.toMillis⟩
  | resetGameClock id expected, [], .game => some ⟨id, expected, fun c => .ok (GameClock.reset c)⟩
  | updatePlayClock id patch expected, [], .play =>
    some ⟨id, expected, fun c => PlayClock.withPatch c patch⟩
  | startPlayClock id seconds expected, [], .play =>
    some ⟨id, expected, fun c => PlayClock.start c seconds⟩
  | stopPlayClock id expected, [], .play => some ⟨id, expected, fun c => .ok (PlayClock.stop c)⟩
  | _, _, _ => none

theorem order_advances {c : Command} {times : List Instant} {k : ClockKind} {order : ClockOrder k}
    (h : c.order? times k = some order) {row next : k.Row} (hstep : order.step row = .ok next) :
    Advances k row next := by
  unfold order? at h
  split at h <;> cases h
  · exact advances_gamePatch hstep
  · exact advances_gameStart hstep
  · exact advances_gamePause hstep
  · exact advances_gameReset hstep
  · exact advances_playPatch hstep
  · exact advances_playStart hstep
  · exact advances_playStop hstep

def throttled? : Command → Option Int
  | touchThrottle matchId _ | acquireThrottle _ matchId | clearThrottle matchId => some matchId
  | _ => none

/-- What a write must have been derived from; a row of a part is read before anything else. -/
def Justified (c : Command) (past : Past) : Call → Prop
  | .insertFixture fields => ∃ draft, c = .createFixture draft ∧ draft.check = .ok fields
  | .updateFixture row => ∃ id current patch, c = .updateFixture id patch ∧
    .answered (.findFixture id) (.ok (some current)) ∈ past ∧ current.withPatch patch = .ok row
  | .updateScoreboard row => ∃ id current patch, c = .updateScoreboard id patch ∧
    .answered (.find .scoreboard id) (.ok (some current)) ∈ past ∧
    Scoreboard.withPatch current patch = .ok row
  | .updateClock k row previous => ∃ order current, c.order? past.readings k = some order ∧
    .answered (.find k.part order.id) (.ok (some current)) ∈ past ∧
    order.step current = .ok row ∧ k.version current = previous
  | .insert p draft => ∀ id, ∃ row, p.make id draft = .ok row
  | .find _ _ => past.Unasked
  | .touchThrottle matchId _ | .deleteThrottle matchId => c.throttled? = some matchId
  | _ => True

/-- A command looks at the clock first if at all, calls only before it has changed a row, and
announces its changes one by one. -/
def rule (c : Command) : Rule where
  ask past call := past.committed = [] ∧ c.Justified past call
  look past := past = []
  announce past change :=
    past.Faithful → ∃ later, past.committed = later ++ change :: past.announced

def Settled (past : Past) : Prop :=
  past.announced = past.committed ∧
    ∃ c r, .answered c r ∈ past ∧ past.committed = (c.changes r).reverse ∧ c.changes r ≠ []

/-- How a command ends: after a failure nothing has changed, and after a success every change has
been announced. -/
def Outcome {α : Type} (c : Command) (past : Past) : Except Cause α → Prop
  | .error _ => past.committed = []
  | .ok _ => if c.mutates then past.Faithful → Settled past else past.committed = []

end Command

open Command

variable {c : Command} {α : Type} {past : Past}

theorem within_announced {finish : Past → Except Cause α → Prop} {call : Call} {r : Answer call}
    {change : RowChange} {a : α} (unchanged : past.committed = []) (silent : past.announced = [])
    (changes : Past.Faithful (.answered call r :: past) → call.changes r = [change])
    (done : (Past.Faithful (.announced change :: .answered call r :: past) →
        Settled (.announced change :: .answered call r :: past)) →
      finish (.announced change :: .answered call r :: past) (.ok a)) :
    Action.Within c.rule finish (.answered call r :: past)
      (do Action.announce change; pure a) := by
  simp only [Action.within_bind, Action.within_announce, Action.within_pure, rule]
  refine ⟨fun faithful => ⟨[], by simp [changes faithful, unchanged, silent]⟩, done fun faithful => ?_⟩
  have hchanges := changes (faithful.of_suffix (List.suffix_cons _ _))
  refine ⟨by simp [hchanges, unchanged, silent], call, r, by simp, ?_, by simp [hchanges]⟩
  simp [hchanges, unchanged]

theorem within_announceAll {finish : Past → Except Cause Unit → Prop} {changes : List RowChange}
    (owed : past.committed = changes.reverse ++ past.announced)
    (done : ∀ steps : Past, (steps ++ past).committed = past.committed →
      (steps ++ past).announced = past.committed → finish (steps ++ past) (.ok ())) :
    Action.Within c.rule finish past (announceAll changes) := by
  -- What is still to be announced is always what the past has committed beyond its announcements.
  induction changes generalizing past with
  | nil => exact done [] rfl owed.symm
  | cons change rest ih =>
    simp only [announceAll, Action.within_bind, Action.within_announce]
    have hnext : past.committed = rest.reverse ++ change :: past.announced := by
      simpa using owed
    refine ⟨fun _ => ⟨rest.reverse, hnext⟩, ih (by simpa using hnext) ?_⟩
    intro steps hcommitted hannounced
    have hdone := done (steps ++ [.announced change])
    simp only [List.append_assoc, List.singleton_append] at hdone
    exact hdone hcommitted hannounced

theorem within_getFixture {R : Rule} {finish : Past → Except Cause Fixture → Prop} {id : Int}
    (allowed : R.ask past (.findFixture id))
    (found : ∀ row, finish (.answered (.findFixture id) (.ok (some row)) :: past) (.ok row))
    (failed : ∀ r e, finish (.answered (.findFixture id) r :: past) (.error e)) :
    Action.Within R finish past (getFixture id) := by
  simp only [getFixture, Action.within_bind, Action.within_ask]
  refine ⟨allowed, ?_⟩
  rintro (fault | (_ | row))
  · exact failed _ _
  · exact failed _ _
  · exact found row

theorem within_getPart {R : Rule} {p : Part} {finish : Past → Except Cause p.Row → Prop} {id : Int}
    (allowed : R.ask past (.find p id))
    (found : ∀ row, finish (.answered (.find p id) (.ok (some row)) :: past) (.ok row))
    (failed : ∀ r e, finish (.answered (.find p id) r :: past) (.error e)) :
    Action.Within R finish past (getPart p id) := by
  simp only [getPart, Action.within_bind, Action.within_ask]
  refine ⟨allowed, ?_⟩
  rintro (fault | (_ | row))
  · exact failed _ _
  · exact failed _ _
  · exact found row

theorem within_createFixture (draft : FixtureDraft) :
    Action.Within (rule (.createFixture draft)) (Outcome (.createFixture draft)) []
      (createFixture draft) := by
  simp only [createFixture, Action.within_bind, Action.within_ofExcept]
  cases hcheck : draft.check with
  | error e => rfl
  | ok fields =>
    simp only [Except.mapError, Action.within_ask]
    refine ⟨⟨rfl, draft, rfl, hcheck⟩, ?_⟩
    rintro (fault | row)
    · rfl
    · exact within_announced rfl rfl (fun _ => rfl) fun h => h

theorem within_updateFixture (id : Int) (patch : FixturePatch) :
    Action.Within (rule (.updateFixture id patch)) (Outcome (.updateFixture id patch)) []
      (updateFixture id patch) := by
  rw [updateFixture, Action.within_bind]
  refine within_getFixture ⟨rfl, trivial⟩ ?_ fun r e => rfl
  intro current
  simp only [Action.within_bind, Action.within_ofExcept]
  cases hnext : current.withPatch patch with
  | error e => rfl
  | ok next =>
    simp only [Except.mapError, Action.within_ask]
    refine ⟨⟨rfl, id, current, patch, rfl, List.mem_cons_self, hnext⟩, ?_⟩
    rintro (fault | (_ | row))
    · rfl
    · rfl
    · refine within_announced rfl rfl (fun faithful => ?_) fun h => h
      have hid : next.id = id := (withPatch_fixture hnext).1.trans (faithful id current (by simp))
      rw [Call.changes, hid]

theorem within_deleteFixture (id : Int) :
    Action.Within (rule (.deleteFixture id)) (Outcome (.deleteFixture id)) []
      (deleteFixture id) := by
  simp only [deleteFixture, Action.within_bind, Action.within_ask]
  refine ⟨⟨rfl, trivial⟩, ?_⟩
  rintro (fault | (_ | removal))
  · rfl
  · rfl
  · simp only [Except.mapError]
    have howed : Past.committed [.answered (.deleteFixture id) (.ok (some removal))] =
        removal.changes.reverse := List.append_nil _
    refine within_announceAll (howed.trans (List.append_nil _).symm) ?_
    intro steps hcommitted hannounced
    refine fun _ => ⟨hannounced.trans hcommitted.symm, .deleteFixture id, .ok (some removal), by simp,
      hcommitted.trans howed, ?_⟩
    simp [Call.changes, Removal.changes]

theorem within_createPart {p : Part} {draft : p.Draft} (hmutates : c.mutates = true)
    (quiet : past.committed = []) (silent : past.announced = [])
    (fits : ∀ id, ∃ row, p.make id draft = .ok row) :
    Action.Within c.rule (Outcome c) past (createPart p draft) := by
  rw [createPart, Action.within_bind]
  refine within_getFixture ⟨quiet, trivial⟩ ?_ fun r e => quiet
  intro fixture
  simp only [Action.within_bind, Action.within_ask]
  refine ⟨⟨quiet, fits⟩, ?_⟩
  rintro (fault | row)
  · exact quiet
  · exact within_announced quiet silent (fun _ => rfl) fun h => by simpa [Outcome, hmutates] using h

theorem within_deletePart (p : Part) (id : Int) :
    Action.Within (rule (.deletePart p id)) (Outcome (.deletePart p id)) [] (deletePart p id) := by
  simp only [deletePart, Action.within_bind, Action.within_ask]
  refine ⟨⟨rfl, trivial⟩, ?_⟩
  rintro (fault | (_ | row))
  · rfl
  · rfl
  · exact within_announced rfl rfl (fun _ => rfl) fun h => h

theorem within_updateScoreboard (id : Int) (patch : ScoreboardPatch) :
    Action.Within (rule (.updateScoreboard id patch)) (Outcome (.updateScoreboard id patch)) []
      (updateScoreboard id patch) := by
  rw [updateScoreboard, Action.within_bind]
  refine within_getPart ⟨rfl, Past.unasked_nil⟩ ?_ fun r e => rfl
  intro current
  simp only [Action.within_bind, Action.within_ofExcept]
  cases hnext : Scoreboard.withPatch current patch with
  | error e => rfl
  | ok next =>
    simp only [Except.mapError, Action.within_ask]
    refine ⟨⟨rfl, id, current, patch, rfl, List.mem_cons_self, hnext⟩, ?_⟩
    rintro (fault | (_ | row))
    · rfl
    · rfl
    · exact within_announced rfl rfl (fun _ => rfl) fun h => h

theorem within_checkVersion {R : Rule} {finish : Past → Except Cause Unit → Prop} {k : ClockKind}
    {id : Int} {expected : Option Version} {current : Version}
    (agreed : (∀ e, expected = some e → e = current) → finish past (.ok ()))
    (refused : ∀ e, expected = some e → e ≠ current →
      finish past (.error (.versionConflict k.part id e.number current.number))) :
    Action.Within R finish past (checkVersion k id expected current) := by
  cases expected with
  | none => exact agreed nofun
  | some e =>
    by_cases he : e = current
    · simp only [checkVersion, he, if_true]
      refine agreed ?_
      intro e' hexpected
      cases hexpected
      exact he
    · simp only [checkVersion, he, if_false]
      exact refused e rfl he

theorem within_transition {k : ClockKind} (order : ClockOrder k) (hmutates : c.mutates = true)
    (quiet : past.committed = []) (silent : past.announced = []) (unasked : past.Unasked)
    (horder : c.order? past.readings k = some order) :
    Action.Within c.rule (Outcome c) past
      (transition k order.id order.expected order.step) := by
  rw [transition, Action.within_bind]
  refine within_getPart ⟨quiet, unasked⟩ ?_ fun r e => quiet
  intro current
  have hwrite : Action.Within c.rule (Outcome c)
      (.answered (.find k.part order.id) (.ok (some current)) :: past) (do
        let next ← Action.ofExcept .clock (order.step current)
        let saved ← Action.ask
          (causeOfWrite k order.id (order.expected.getD (k.version current)))
          (.ask (.updateClock k next (k.version current)))
        Action.announce
          (.updated k.part.table (k.part.rowId saved) (some (k.part.ownerId saved)))
        pure saved) := by
    simp only [Action.within_bind, Action.within_ofExcept]
    cases hnext : order.step current with
    | error e => exact quiet
    | ok next =>
      simp only [Except.mapError, Action.within_ask]
      refine ⟨⟨quiet, order, current, horder, List.mem_cons_self, hnext, rfl⟩, ?_⟩
      rintro (fault | row)
      · exact quiet
      · exact within_announced quiet silent (fun _ => rfl) fun h => by simpa [Outcome, hmutates] using h
  dsimp only
  rw [Action.within_bind]
  exact within_checkVersion (fun _ => hwrite) fun e _ _ => quiet

theorem within_timed {k : ClockKind} (order : Int → ClockOrder k) (hmutates : c.mutates = true)
    (horder : ∀ now : Instant, c.order? [now] k = some (order now.toMillis)) :
    Action.Within c.rule (Outcome c) [] (do
      let now ← timeMs
      transition k (order now).id (order now).expected (order now).step) := by
  simp only [timeMs, Action.within_bind, Action.within_time, Action.within_pure]
  refine ⟨rfl, ?_⟩
  intro now
  exact within_transition (order now.toMillis) hmutates rfl rfl (Past.unasked_looked now) (horder now)

theorem within_createScoreboard (draft : ScoreboardDraft) :
    Action.Within (rule (.createScoreboard draft)) (Outcome (.createScoreboard draft)) []
      (createScoreboard draft) := by
  simp only [createScoreboard, Action.within_bind, Action.within_ofExcept]
  cases hcheck : draft.check with
  | error e => rfl
  | ok u => exact within_createPart rfl rfl rfl (make_scoreboard hcheck)

theorem within_createGameClock (draft : GameClockDraft) :
    Action.Within (rule (.createGameClock draft)) (Outcome (.createGameClock draft)) []
      (createGameClock draft) := by
  have hcreate (past : Past) (d : GameClockDraft) (quiet : past.committed = [])
      (silent : past.announced = []) :
      Action.Within (rule (.createGameClock draft)) (Outcome (.createGameClock draft)) past (do
        Action.ofExcept .clock d.check
        createPart .gameclock d) := by
    simp only [Action.within_bind, Action.within_ofExcept]
    cases hcheck : d.check with
    | error e => exact quiet
    | ok u => exact within_createPart rfl quiet silent (make_gameclock hcheck)
  rw [createGameClock, Action.within_bind, startedDraft]
  split_ifs
  · simp only [timeMs, Action.within_bind, Action.within_time, Action.within_pure]
    refine ⟨rfl, ?_⟩
    intro now
    exact Action.within_bind.mp (hcreate [.looked now] _ rfl rfl)
  · rw [Action.within_pure]
    exact hcreate [] draft rfl rfl

theorem within_createPlayClock (draft : PlayClockDraft) :
    Action.Within (rule (.createPlayClock draft)) (Outcome (.createPlayClock draft)) []
      (createPlayClock draft) := by
  simp only [createPlayClock, Action.within_bind, Action.within_ofExcept]
  cases hcheck : draft.check with
  | error e => rfl
  | ok u => exact within_createPart rfl rfl rfl (make_playclock hcheck)

theorem within_acquireThrottle (interval : Duration) (matchId : Int) :
    Action.Within (rule (.acquireThrottle interval matchId))
      (Outcome (.acquireThrottle interval matchId)) [] (acquireThrottle interval matchId) := by
  simp only [acquireThrottle, Action.within_bind, Action.within_time, Action.within_ask]
  refine ⟨rfl, ?_⟩
  intro now
  refine ⟨⟨rfl, trivial⟩, ?_⟩
  rintro (fault | found)
  · rfl
  · simp only [Prog.within_done, Except.mapError]
    cases pendingWait interval now found with
    | some wait => rfl
    | none =>
      simp only [Action.within_bind, touchThrottle, Action.within_ask]
      refine ⟨⟨rfl, rfl⟩, ?_⟩
      rintro (fault | record) <;> rfl

theorem within_clearThrottle (matchId : Int) :
    Action.Within (rule (.clearThrottle matchId)) (Outcome (.clearThrottle matchId)) []
      (clearThrottle matchId) := by
  simp only [clearThrottle, Action.within_bind, Action.within_ask]
  refine ⟨⟨rfl, rfl⟩, ?_⟩
  rintro (fault | (_ | _)) <;> rfl

/-- Every service call keeps to the rule of its command and ends as it should. -/
theorem within_action (c : Command) : Action.Within c.rule (Outcome c) [] c.action := by
  cases c with
  | getFixture id => exact within_getFixture ⟨rfl, trivial⟩ (fun row => rfl) fun r e => rfl
  | createFixture draft => exact within_createFixture draft
  | updateFixture id patch => exact within_updateFixture id patch
  | deleteFixture id => exact within_deleteFixture id
  | getPart p id => exact within_getPart ⟨rfl, Past.unasked_nil⟩ (fun row => rfl) fun r e => rfl
  | getPartByMatch p matchId =>
    simp only [action, getPartByMatch, Action.within_bind, Action.within_ask]
    refine ⟨⟨rfl, trivial⟩, ?_⟩
    rintro (fault | (_ | row)) <;> rfl
  | deletePart p id => exact within_deletePart p id
  | createScoreboard draft => exact within_createScoreboard draft
  | updateScoreboard id patch => exact within_updateScoreboard id patch
  | createGameClock draft => exact within_createGameClock draft
  | updateGameClock id patch expected =>
    exact within_timed (k := .game)
      (fun now => ⟨id, expected, fun c => GameClock.withPatch c patch now⟩) rfl fun now => rfl
  | startGameClock id expected =>
    exact within_timed (k := .game)
      (fun now => ⟨id, expected, fun c => GameClock.start c now⟩) rfl fun now => rfl
  | pauseGameClock id expected =>
    exact within_timed (k := .game)
      (fun now => ⟨id, expected, fun c => GameClock.pause c now⟩) rfl fun now => rfl
  | resetGameClock id expected =>
    exact within_transition (k := .game)
      ⟨id, expected, fun c => .ok (GameClock.reset c)⟩ rfl rfl rfl Past.unasked_nil rfl
  | createPlayClock draft => exact within_createPlayClock draft
  | updatePlayClock id patch expected =>
    exact within_transition (k := .play)
      ⟨id, expected, fun c => PlayClock.withPatch c patch⟩ rfl rfl rfl Past.unasked_nil rfl
  | startPlayClock id seconds expected =>
    exact within_transition (k := .play)
      ⟨id, expected, fun c => PlayClock.start c seconds⟩ rfl rfl rfl Past.unasked_nil rfl
  | stopPlayClock id expected =>
    exact within_transition (k := .play)
      ⟨id, expected, fun c => .ok (PlayClock.stop c)⟩ rfl rfl rfl Past.unasked_nil rfl
  | getThrottle matchId =>
    simp only [action, getThrottle, Action.within_bind, Action.within_ask]
    refine ⟨⟨rfl, trivial⟩, ?_⟩
    rintro (fault | (_ | record)) <;> rfl
  | touchThrottle matchId time =>
    simp only [action, touchThrottle, Action.within_ask]
    refine ⟨⟨rfl, rfl⟩, ?_⟩
    rintro (fault | record) <;> rfl
  | acquireThrottle interval matchId => exact within_acquireThrottle interval matchId
  | clearThrottle matchId => exact within_clearThrottle matchId

end Matchday.Service
