import Matchday.Proofs.Entities
import Matchday.Proofs.Outcomes
import Matchday.Proofs.Serving

set_option autoImplicit false

namespace Matchday

open Matchday.Http
open Matchday.Service
open Matchday.Text

namespace PlayClock

inductive Deed
  | create (draft : PlayClockDraft)
  | change (deed : WatchedTable.Deed .playclock)

namespace Deed

def seconds? : Deed → Option Int
  | create draft => draft.playclock
  | change (.startPlay seconds) => some seconds
  | change .stopPlay => none
  | change (.patchPlay patch) => patch.playclock

def status? : Deed → Option ClockStatus
  | create draft => some draft.status
  | change (.startPlay _) => some .running
  | change .stopPlay => some .stopped
  | change (.patchPlay patch) => patch.status

def isStop : Deed → Bool
  | change .stopPlay => true
  | _ => false

/-- What a deed makes of the clock before it. -/
inductive Makes : Deed → Option PlayClock → PlayClock → Prop
  | create {draft : PlayClockDraft} {before : Option PlayClock} {row : PlayClock}
      (drafted : row.fields = draft) : Makes (.create draft) before row
  | change {deed : WatchedTable.Deed .playclock} {old row : PlayClock}
      (applied : WatchedTable.apply .playclock old deed = .ok row) : Makes (.change deed) (some old) row

def onto : Deed → List Deed → List Deed
  | create draft, _ => [create draft]
  | change deed, earlier => change deed :: earlier

end Deed

/-- Of what has been done to a clock, the latest first, that which came after its last stop. -/
def sinceStop (deeds : List Deed) : List Deed := deeds.takeWhile fun deed => !deed.isStop

structure Recorded (deeds : List Deed) (row : PlayClock) : Prop where
  whole : ∃ (changes : List (WatchedTable.Deed .playclock)) (draft : PlayClockDraft),
    deeds = changes.map .change ++ [.create draft]
  shown : row.fields.playclock = (sinceStop deeds).findSome? Deed.seconds?
  status : deeds.findSome? Deed.status? = some row.fields.status

variable {deeds : List Deed} {row old : PlayClock}

theorem recorded_create (row : PlayClock) : Recorded [.create row.fields] row where
  whole := ⟨[], row.fields, rfl⟩
  shown := by
    cases hplayclock : row.fields.playclock <;> simp [sinceStop, Deed.isStop, Deed.seconds?, hplayclock]
  status := rfl

theorem Recorded.change (h : Recorded deeds old) {deed : WatchedTable.Deed .playclock}
    (applied : WatchedTable.apply .playclock old deed = .ok row) :
    Recorded (.change deed :: deeds) row := by
  obtain ⟨changes, draft, hdeeds⟩ := h.whole
  have hwhole : .change deed :: deeds = (deed :: changes).map .change ++ [.create draft] := by
    rw [hdeeds]
    rfl
  cases deed with
  | startPlay seconds =>
    change old.start seconds = .ok row at applied
    rw [start] at applied
    split_ifs at applied
    cases applied
    exact ⟨⟨_, _, hwhole⟩, rfl, rfl⟩
  | stopPlay =>
    cases applied
    exact ⟨⟨_, _, hwhole⟩, rfl, rfl⟩
  | patchPlay patch =>
    obtain ⟨-, rfl⟩ := withPatch_eq_ok_iff.mp applied
    refine ⟨⟨_, _, hwhole⟩, ?_, ?_⟩
    · change (patch.playclock.orElse fun _ => old.fields.playclock) =
        (Deed.change (.patchPlay patch) :: sinceStop deeds).findSome? Deed.seconds?
      rw [h.shown]
      cases hgiven : patch.playclock <;> simp [Deed.seconds?, hgiven]
    · change _ = some (patch.status.getD old.fields.status)
      cases hgiven : patch.status <;> simp [Deed.status?, hgiven, h.status]

theorem Recorded.next {deed : Deed} {before : Option PlayClock} (makes : deed.Makes before row)
    (h : ∀ old ∈ before, Recorded deeds old) : Recorded (deed.onto deeds) row := by
  cases makes with
  | create drafted =>
    subst drafted
    exact recorded_create row
  | change applied => exact (h _ rfl).change applied

theorem Recorded.blank_iff (h : Recorded deeds row) :
    row.fields.playclock = none ↔ ∀ deed ∈ sinceStop deeds, deed.seconds? = none := by
  rw [h.shown, List.findSome?_eq_none_iff]

theorem Recorded.blank_of_unpatched (h : Recorded deeds row)
    (unpatched : ∀ patch, .change (.patchPlay patch) ∉ deeds)
    (drafted : ∀ draft, .create draft ∈ deeds → draft.status = .stopped → draft.playclock = none)
    (stopped : row.fields.status = .stopped) : row.fields.playclock = none := by
  obtain ⟨changes, draft, rfl⟩ := h.whole
  have hstatus := h.status
  rw [stopped] at hstatus
  cases changes with
  | nil =>
    have hnone := drafted draft (List.mem_singleton.mpr rfl) (Option.some.inj hstatus)
    refine h.blank_iff.mpr fun deed hdeed => ?_
    obtain rfl : deed = .create draft := List.mem_singleton.mp hdeed
    exact hnone
  | cons latest changes =>
    cases latest with
    | startPlay seconds => cases hstatus
    | stopPlay => exact h.shown
    | patchPlay patch => exact absurd List.mem_cons_self (unpatched patch)

end PlayClock

theorem PlayClock.id_apply {old row : PlayClock} {deed : WatchedTable.Deed .playclock}
    (applied : WatchedTable.apply .playclock old deed = .ok row) : row.id = old.id := by
  cases deed with
  | startPlay seconds => exact (advances_playStart applied).1
  | stopPlay => exact (advances_playStop applied).1
  | patchPlay patch => exact (advances_playPatch applied).1

theorem PlayClock.fields_make {id : Int} {draft : PlayClockDraft} {row : PlayClock}
    (h : Part.make .playclock id draft = .ok row) : row.fields = draft := by
  simp only [Part.make, make] at h
  cases hcheck : draft.check <;> rw [hcheck] at h <;> cases h
  rfl

/-- What a command that has returned this did to a play clock. -/
def Service.Command.playDeed? : (c : Command) → c.Result → Int → Option PlayClock.Deed
  | .createPlayClock draft, row, id => if row.id = id then some (.create draft) else none
  | .updatePlayClock k patch _, _, id => if k = id then some (.change (.patchPlay patch)) else none
  | .startPlayClock k seconds _, _, id => if k = id then some (.change (.startPlay seconds)) else none
  | .stopPlayClock k _, _, id => if k = id then some (.change .stopPlay) else none
  | _, _, _ => none

namespace Store

/-- How a play clock has come to stand in the store: as it was, or by a deed. -/
inductive PlayStep (s : Store) (id : Int) (row : PlayClock) : Option PlayClock.Deed → Prop
  | kept (same : s.findPart .playclock id = some row) : PlayStep s id row none
  | did {deed : PlayClock.Deed} (makes : deed.Makes (s.findPart .playclock id) row) :
    PlayStep s id row (some deed)

variable {now : Instant} {s s' : Store} {id : Int} {row : PlayClock}

theorem playStep_of_setPart {p : Part} {t : Numbered p.Row} (other : .playclock ≠ p)
    (stored : (s.setPart p t).findPart .playclock id = some row) : s.PlayStep id row none :=
  .kept ((findPart_setPart_of_ne s t id other).symm.trans stored)

theorem playStep_of_timed {k : Int} {expected : Option Version}
    {step : Int → GameClock → Except ClockError GameClock} {next : GameClock}
    (yields : Yields now s (do let t ← timeMs; transition .game k expected (step t)) next s')
    (stored : s'.findPart .playclock id = some row) : s.PlayStep id row none := by
  simp only [yields_bind, yields_timeMs] at yields
  obtain ⟨t, u, ⟨-, rfl⟩, htransition⟩ := yields
  rw [(yields_transition htransition).2] at stored
  exact playStep_of_setPart (by decide) stored

theorem playStep_of_insert {k last : Int} {next : PlayClock} {deed : PlayClock.Deed}
    (makes : k = id → deed.Makes (s.findPart .playclock id) next)
    (stored : (s.setPart .playclock ⟨(s.part .playclock).rows.insert k next, last⟩).findPart
      .playclock id = some row) : s.PlayStep id row (if k = id then some deed else none) := by
  rw [findPart_setPart_self, Table.get?_insert] at stored
  by_cases hk : id = k
  · rw [if_pos hk] at stored
    cases stored
    rw [if_pos hk.symm]
    exact .did (makes hk.symm)
  · rw [if_neg hk] at stored
    rw [if_neg fun h => hk h.symm]
    exact .kept stored

theorem playStep_of_transition (hs : s.Integrity) {k : Int} {expected : Option Version}
    {deed : WatchedTable.Deed .playclock} {next : PlayClock}
    (yields : Yields now s
      (transition .play k expected fun old => WatchedTable.apply .playclock old deed) next s')
    (stored : s'.findPart .playclock id = some row) :
    s.PlayStep id row (if k = id then some (.change deed) else none) := by
  obtain ⟨⟨old, hold, happlied⟩, rfl⟩ := yields_transition yields
  have hkey : next.id = k := (PlayClock.id_apply happlied).trans ((hs.parts .playclock).own k old hold)
  subst hkey
  refine playStep_of_insert (fun hid => ?_) stored
  subst hid
  have hfound : s.findPart .playclock next.id = some old := hold
  rw [hfound]
  exact .change happlied

theorem playStep_of_yields (hs : s.Integrity) {c : Command} {x : c.Result}
    (yields : Yields now s c.action x s') (stored : s'.findPart .playclock id = some row) :
    s.PlayStep id row (c.playDeed? x id) := by
  cases c with
  | getFixture k =>
    obtain ⟨-, rfl⟩ := yields_getFixture.mp yields
    exact .kept stored
  | createFixture draft =>
    rw [(yields_createFixture yields).2] at stored
    exact .kept stored
  | updateFixture k patch =>
    rw [(yields_updateFixture yields).2] at stored
    exact .kept stored
  | deleteFixture k =>
    rw [(yields_deleteFixture yields).2, findPart_withoutFixture (hs.parts .playclock).ordered] at stored
    exact .kept (Option.filter_eq_some_iff.mp stored).1
  | getPart p k =>
    obtain ⟨-, rfl⟩ := yields_getPart.mp yields
    exact .kept stored
  | getPartByMatch p m =>
    obtain ⟨-, rfl⟩ := yields_getPartByMatch.mp yields
    exact .kept stored
  | deletePart p k =>
    rw [(yields_deletePart yields).2] at stored
    by_cases hp : .playclock = p
    · subst hp
      rw [findPart_setPart_self, Table.get?_erase] at stored
      split_ifs at stored
      exact .kept stored
    · exact playStep_of_setPart hp stored
  | createScoreboard draft =>
    simp only [Command.action, createScoreboard, yields_bind, yields_ofExcept] at yields
    obtain ⟨-, u, ⟨-, rfl⟩, hcreated⟩ := yields
    rw [(yields_createPart hcreated).2] at stored
    exact playStep_of_setPart (by decide) stored
  | updateScoreboard k patch =>
    rw [(yields_updateScoreboard yields).2] at stored
    exact playStep_of_setPart (by decide) stored
  | createGameClock draft =>
    simp only [Command.action, createGameClock, yields_bind, yields_ofExcept] at yields
    obtain ⟨started, u, hstarted, -, v, ⟨-, rfl⟩, hcreated⟩ := yields
    obtain rfl := yields_startedDraft hstarted
    rw [(yields_createPart hcreated).2] at stored
    exact playStep_of_setPart (by decide) stored
  | updateGameClock k patch expected => exact playStep_of_timed yields stored
  | startGameClock k expected => exact playStep_of_timed yields stored
  | pauseGameClock k expected => exact playStep_of_timed yields stored
  | resetGameClock k expected =>
    rw [(yields_transition yields).2] at stored
    exact playStep_of_setPart (by decide) stored
  | createPlayClock draft =>
    simp only [Command.action, createPlayClock, yields_bind, yields_ofExcept] at yields
    obtain ⟨-, u, ⟨-, rfl⟩, hcreated⟩ := yields
    obtain ⟨⟨-, -, hmade⟩, rfl⟩ := yields_createPart hcreated
    exact playStep_of_insert (fun _ => .create (PlayClock.fields_make hmade)) stored
  | updatePlayClock k patch expected => exact playStep_of_transition hs yields stored
  | startPlayClock k seconds expected => exact playStep_of_transition hs yields stored
  | stopPlayClock k expected => exact playStep_of_transition hs yields stored
  | getThrottle m =>
    obtain ⟨-, rfl⟩ := yields_getThrottle.mp yields
    exact .kept stored
  | touchThrottle m time =>
    rw [(yields_touchThrottle yields).2] at stored
    exact .kept stored
  | acquireThrottle interval m =>
    rcases yields_acquireThrottle yields with ⟨-, rfl⟩ | ⟨-, -, -, rfl⟩ <;> exact .kept stored
  | clearThrottle m =>
    rw [yields_clearThrottle yields] at stored
    exact .kept stored

end Store

namespace Application

variable {app : Application Store} {id : Int} {row : PlayClock}

def Move.playDeed? (app : Application Store) (id : Int) (move : Move) : Option PlayClock.Deed := do
  let c ← move.command? app.interval
  let x ← (app.run c.action.run).1.toOption
  c.playDeed? x id

def playDeeds (app : Application Store) (id : Int) : List Move → List PlayClock.Deed
  | [] => []
  | move :: earlier =>
    (move.playDeed? (app.after earlier) id).elim (playDeeds app id earlier)
      fun deed => deed.onto (playDeeds app id earlier)

theorem playStep_step (memory : app.storage = Store.storage) (hs : app.world.store.Integrity)
    {move : Move} (stored : (app.step move).world.store.findPart .playclock id = some row) :
    app.world.store.PlayStep id row (move.playDeed? app id) := by
  rw [store_step memory] at stored
  rw [Move.playDeed?]
  generalize move.command? app.interval = asked at stored ⊢
  cases asked with
  | none => exact .kept stored
  | some c =>
    have hvalue := value_run memory c.action.run
    cases hreturned : (c.action.run.exec app.world.clock app.world.store).value with
    | error cause =>
      rw [Option.elim_some, (Spares.action c).store_exec hreturned] at stored
      rw [hreturned] at hvalue
      simp only [Option.bind_eq_bind, Option.bind_some, hvalue]
      exact .kept stored
    | ok x =>
      rw [hreturned] at hvalue
      simp only [Option.bind_eq_bind, Option.bind_some, hvalue]
      exact Store.playStep_of_yields hs ⟨hreturned, rfl⟩ stored

theorem recorded_after (clock : Instant) (interval : Duration) (capacity : Nat) {moves : List Move}
    (stored : ((start Store.storage .empty clock interval capacity).after moves).world.store.findPart
      .playclock id = some row) :
    PlayClock.Recorded ((start Store.storage .empty clock interval capacity).playDeeds id moves) row := by
  induction moves generalizing row with
  | nil => cases stored
  | cons move earlier ih =>
    have hstep := playStep_step ((storage_after earlier).trans rfl)
      (integrity_after clock interval capacity earlier) stored
    rw [playDeeds]
    generalize move.playDeed? _ id = deed? at hstep ⊢
    cases hstep with
    | kept same => exact ih same
    | did makes => exact PlayClock.Recorded.next makes fun old hold => ih hold

/-- A play clock of the store has been created and then changed, by calls and by requests. It shows the
seconds that were given last since it was stopped, and has the status that was given last. So a stopped
one is blank exactly if no draft, patch or start has given seconds since its last stop; it is blank if it
has not been patched and was not created stopped with seconds. -/
theorem play_clock_shows_last_given (clock : Instant) (interval : Duration) (capacity : Nat)
    (moves : List Move) {id : Int} {row : PlayClock}
    (stored : ((start Store.storage .empty clock interval capacity).after moves).world.store.findPart
      .playclock id = some row) :
    let deeds := (start Store.storage .empty clock interval capacity).playDeeds id moves
    (∃ (changes : List (WatchedTable.Deed .playclock)) (draft : PlayClockDraft),
      deeds = changes.map .change ++ [.create draft]) ∧
    row.fields.playclock = (PlayClock.sinceStop deeds).findSome? PlayClock.Deed.seconds? ∧
    deeds.findSome? PlayClock.Deed.status? = some row.fields.status ∧
    (row.fields.status = .stopped →
      (row.fields.playclock = none ↔ ∀ deed ∈ PlayClock.sinceStop deeds, deed.seconds? = none) ∧
      ((∀ patch, .change (.patchPlay patch) ∉ deeds) →
        (∀ draft, .create draft ∈ deeds → draft.status = .stopped → draft.playclock = none) →
        row.fields.playclock = none)) := by
  intro deeds
  have hrecorded : PlayClock.Recorded deeds row := recorded_after clock interval capacity stored
  refine ⟨hrecorded.whole, hrecorded.shown, hrecorded.status, fun stopped => ?_⟩
  exact ⟨hrecorded.blank_iff, fun unpatched drafted => hrecorded.blank_of_unpatched unpatched drafted stopped⟩

theorem play_clock_shows_last_given_of_patch :
    let send (method : Method) (target : String) (body : List (String × Json)) : Move :=
      .request none ⟨method, target, [("content-type", Utf8.encode "application/json")],
        Utf8.encode (Json.obj body).render⟩
    let moves : List Move :=
      [send .patch "/api/v1/playclocks/1" [("status", .str "stopped")],
        .call (.startPlayClock 1 25 none),
        send .post "/api/v1/playclocks" [("matchId", .int 1)],
        .call (.createFixture ⟨1, 4, 5, "final", 0, none⟩)]
    let app := start Store.storage .empty .epoch 1000000000 256
    let row : PlayClock := ⟨1, Version.initial.next.next, ⟨1, some 25, .stopped⟩⟩
    (app.after moves).world.store.findPart .playclock 1 = some row ∧
      (PlayClock.sinceStop (app.playDeeds 1 moves)).findSome? PlayClock.Deed.seconds? = some 25 ∧
      ¬∀ deed ∈ PlayClock.sinceStop (app.playDeeds 1 moves), deed.seconds? = none := by
  intro send moves app row
  have hstored : (app.after moves).world.store.findPart .playclock 1 = some row := by decide +kernel
  obtain ⟨-, hshown, -, hblank⟩ :=
    play_clock_shows_last_given .epoch 1000000000 256 moves hstored
  refine ⟨hstored, hshown.symm, fun hnone => ?_⟩
  cases (hblank rfl).1.mpr hnone

theorem stopped_play_clock_not_blank :
    ¬∀ (clock : Instant) (interval : Duration) (capacity : Nat) (moves : List Move) (id : Int)
      (row : PlayClock),
      ((start Store.storage .empty clock interval capacity).after moves).world.store.findPart
        .playclock id = some row → row.fields.status = .stopped → row.fields.playclock = none := by
  intro h
  have hblank := h .epoch 1000000000 256
    [.call (.updatePlayClock 1 { status := some .stopped } none), .call (.startPlayClock 1 25 none),
      .call (.createPlayClock ⟨1, none, .stopped⟩), .call (.createFixture ⟨1, 4, 5, "final", 0, none⟩)]
    1 ⟨1, Version.initial.next.next, ⟨1, some 25, .stopped⟩⟩ (by decide +kernel) rfl
  cases hblank

end Application

end Matchday
