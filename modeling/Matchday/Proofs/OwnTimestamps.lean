import Matchday.Proofs.Commutation
import Matchday.Proofs.MergedPatches
import Matchday.Proofs.Readback
import Matchday.Proofs.StoredInstants

set_option autoImplicit false

namespace Matchday

open Matchday.Api
open Matchday.Http
open Matchday.Message
open Matchday.Service

namespace Api

def Field.notTimestamp (field text : String) : Refusal :=
  refuse field s!"{field} must be an RFC 3339 timestamp" "invalid_timestamp" (some text)

theorem Field.timestamp_render {i : Instant} (clock : i.OnClock) (field : String) :
    timestamp field (Rfc3339.render i) =
      if i.FourDigitYear then .ok i else .error (notTimestamp field (Rfc3339.render i)) := by
  rw [timestamp]
  split_ifs with hyear
  · rw [Rfc3339.parse?_render clock hyear]
  · rw [Rfc3339.parse?_render_of_signed hyear]
    rfl

theorem status_notTimestamp (scope : Option TraceId) (field text : String) :
    ((Field.notTimestamp field text).traced scope).response.status = 400 :=
  status_traced scope rfl

end Api

section

variable {now : Instant} {s : Store} {id : Int}

theorem yields_updateFixture_same (hs : s.Integrity) {m : Fixture} {patch : FixturePatch}
    (found : s.fixtures.rows.get? id = some m) (same : m.withPatch patch = .ok m) :
    Yields now s (updateFixture id patch) m s := by
  have hown : m.id = id := hs.fixtures.own id m found
  have hcontains : s.fixtures.rows.contains m.id = true := by
    rw [Table.contains, hown, found]
    rfl
  have hwrite : s.updateFixture m = (some m, s) := by
    rw [Store.updateFixture, if_pos hcontains, Table.insert_self hs.fixtures.ordered (hown ▸ found)]
  have hanswer : s.answer now (.updateFixture m) = (.ok (some m), s) := by
    rw [Store.answer, hwrite]
    rfl
  simp only [updateFixture, yields_bind, yields_getFixture, yields_ofExcept, yields_ask, yields_require,
    yields_announce, yields_pure]
  refine ⟨m, s, ⟨found, rfl⟩, m, s, ⟨same, rfl⟩, some m, s, ?_, m, s, ⟨rfl, rfl⟩, (), s, rfl, rfl, rfl⟩
  exact ⟨congrArg Prod.fst hanswer, congrArg Prod.snd hanswer⟩

theorem yields_touchThrottle_same (ordered : s.throttle.Ordered) {record : ThrottleRecord}
    (found : s.throttle.get? id = some record) (own : record.matchId = id) :
    Yields now s (touchThrottle id (some record.lastNotifiedAt)) record s := by
  have hrecord : (⟨id, record.lastNotifiedAt⟩ : ThrottleRecord) = record := by rw [← own]
  simp only [touchThrottle, yields_ask, Prog.ask, Prog.exec, Store.answer, Store.touchThrottle,
    Option.getD_some, hrecord, Table.insert_self ordered found]
  exact ⟨rfl, rfl⟩

end

structure Message.UpdateFixture.Repeats (u : UpdateFixture) (v : FixtureView) : Prop where
  tournamentId : ∀ n ∈ u.tournamentId, n = v.tournamentId
  teamAId : ∀ n ∈ u.teamAId, n = v.teamAId
  teamBId : ∀ n ∈ u.teamBId, n = v.teamBId
  title : ∀ s ∈ u.title, s = v.title
  week : ∀ n ∈ u.week, n = v.week
  matchDate : u.matchDate = v.matchDate

namespace Api

variable {u : UpdateFixture} {m : Fixture} {i : Instant}

theorem fixturePatch_repeated (repeats : u.Repeats (.ofFixture m)) (date : m.fields.matchDate = some i)
    (clock : i.OnClock) :
    (i.FourDigitYear → ∃ patch, Reading.fixturePatch u = .ok patch ∧ patch.Restates m.fields) ∧
      (¬ i.FourDigitYear →
        Reading.fixturePatch u = .error (Field.notTimestamp "matchDate" (Rfc3339.render i))) := by
  have htext : u.matchDate = some (Rfc3339.render i) := by
    rw [repeats.matchDate, FixtureView.ofFixture, date]
    rfl
  have hread := Field.timestamp_render clock "matchDate"
  constructor
  · intro hyear
    rw [if_pos hyear] at hread
    refine ⟨⟨u.tournamentId, u.teamAId, u.teamBId, u.title, u.week, some i⟩, ?_, repeats.tournamentId,
      repeats.teamAId, repeats.teamBId, repeats.title, repeats.week, ?_⟩
    · rw [Reading.fixturePatch, htext, Field.optional, hread]
      rfl
    · rintro j ⟨⟩
      exact date.symm
  · intro hyear
    rw [if_neg hyear] at hread
    rw [Reading.fixturePatch, htext, Field.optional, hread]
    rfl

variable {r : Request}

theorem notificationTime_repeated {record : ThrottleRecord} (clock : record.lastNotifiedAt.OnClock)
    (message : Input.optionalMessage TouchThrottle.record.codec .now r =
      .ok ⟨some (ThrottleView.ofRecord record).lastNotifiedAt⟩) :
    Reading.notificationTime r =
      if record.lastNotifiedAt.FourDigitYear then .ok (some record.lastNotifiedAt)
      else .error (Field.notTimestamp "lastNotifiedAt" (Rfc3339.render record.lastNotifiedAt)) := by
  have hread := Field.timestamp_render clock "lastNotifiedAt"
  have htime : Reading.notificationTime r = Field.optional (Field.timestamp "lastNotifiedAt")
      (some (Rfc3339.render record.lastNotifiedAt)) := by
    simp only [Reading.notificationTime, message, ThrottleView.ofRecord, bind, Except.bind]
  rw [htime, Field.optional, hread]
  split_ifs <;> rfl

variable {id : Int} {interval : Duration}

theorem handle_updateFixture (message : Input.message UpdateFixture.record.codec r = .ok u) :
    ItemAction.handle interval .updateFixture id r =
      (do
        let patch ← Handler.ofInput (Reading.fixturePatch u)
        let row ← Handler.ofAction (Command.updateFixture id patch).action
        pure (.shown (Showing.fixture row))) := by
  rw [ItemAction.handle, message]
  rfl

end Api

namespace Application

variable {app : Application Store} {scope : Option TraceId} {r : Request} {a : ItemAction} {id : Int}

theorem serve_of_refused (memory : app.storage = Store.storage) (asks : target? r = some (a, id))
    {refusal : Refusal} (handles : a.handle app.interval id r = Handler.ofInput (.error refusal)) :
    app.serve scope r = ((refusal.traced scope).response, app) := by
  obtain ⟨segment, hfound, hread⟩ := target?_eq_some.mp asks
  rw [serve_of_route hfound, run_eq_exec memory, Route.exec_serve, Route.handle_item hread, handles]
  rfl

theorem serve_of_yields (memory : app.storage = Store.storage) (asks : target? r = some (a, id))
    {c : Command} {showing : c.Result → Json}
    (handles : a.handle app.interval id r =
      (do let x ← Handler.ofAction c.action; pure (.shown (showing x))))
    {x : c.Result} {s : Store} (yields : Yields app.world.clock app.world.store c.action x s) :
    (app.serve scope r).1.Answers (some (showing x)) ∧ (app.serve scope r).2.world.store = s := by
  rw [serve_of_target memory asks handles, value_run memory, yields.1, store_run memory]
  exact ⟨⟨rfl, rfl⟩, yields.2⟩

theorem fixtures_sound_after (clock : Instant) (interval : Duration) (capacity : Nat) (moves : List Move) :
    ((start Store.storage .empty clock interval capacity).after moves).world.store.FixturesAre
      FixtureDraft.Sound := by
  have hempty : Store.empty.FixturesAre FixtureDraft.Sound := nofun
  refine store_invariant_of_justified (I := fun s => s.FixturesAre FixtureDraft.Sound) ?_ rfl hempty moves
  intro s now command past c justified h
  refine (s.effect_answer now c).fixturesAre (fun fields hfields => ?_) h
  obtain ⟨draft, hcheck⟩ := justified.fixture_checked hfields
  exact (FixtureDraft.check_eq_ok_iff.mp hcheck).2

theorem throttle_own_after (clock : Instant) (interval : Duration) (capacity : Nat) (moves : List Move) :
    let app := (start Store.storage .empty clock interval capacity).after moves
    ∀ m record, app.world.store.throttle.get? m = some record → record.matchId = m := by
  have hempty : ∀ m record, Store.empty.throttle.get? m = some record → record.matchId = m := nofun
  refine store_invariant (I := fun s => ∀ m record, s.throttle.get? m = some record → record.matchId = m)
    ?_ rfl hempty moves
  intro s now c own m record found
  cases c with
  | touchThrottle j time =>
    change (s.throttle.insert j _).get? m = some record at found
    rw [Table.get?_insert] at found
    split_ifs at found with hm
    · cases found
      exact hm.symm
    · exact own m record found
  | deleteThrottle j =>
    change (s.throttle.erase j).get? m = some record at found
    rw [Table.get?_erase] at found
    split_ifs at found
    exact own m record found
  | _ =>
    rw [Store.throttle_answer rfl] at found
    exact own m record found

/-- Every text that is a timestamp denotes an instant that a clock shows, as all rows then have it, and what is
shown of such an instant is read as the same instant if its year in UTC has four digits, from
0000-01-01T00:00:00Z to 9999-12-31T23:59:59Z, and is refused if an offset has carried it beyond. After every
run, a request that gives a match the time that its view has, and perhaps other fields of the view, is answered
with that view, and one that notifies at the time of the last notification with that notification; the store
stays as it is. If the year has not four digits, the request is refused and changes nothing. -/
theorem own_timestamps_come_back (clock : Instant) (interval : Duration) (capacity : Nat)
    (moves : List Move) (scope : Option TraceId) (r : Request) (id : Int) :
    let app := (start Store.storage .empty clock interval capacity).after moves
    (∀ text i, Rfc3339.parse? text = some i → i.OnClock) ∧
    (clock.OnClock → (∀ move ∈ moves, move.OnClock) → app.world.store.OnClock) ∧
    (∀ i : Instant, i.OnClock → ∀ field, Field.timestamp field (Rfc3339.render i) =
      if -62167219200 ≤ i.seconds ∧ i.seconds ≤ 253402300799 then .ok i
      else .error (Field.notTimestamp field (Rfc3339.render i))) ∧
    (∀ m u i, app.world.store.fixtures.rows.get? id = some m → m.fields.matchDate = some i → i.OnClock →
      target? r = some (.updateFixture, id) → Input.message UpdateFixture.record.codec r = .ok u →
      u.Repeats (.ofFixture m) →
      if i.FourDigitYear then
        (app.serve scope r).1.Answers (some (Showing.fixture m)) ∧
          (app.serve scope r).2.world.store = app.world.store
      else (app.serve scope r).1.status = 400 ∧ (app.serve scope r).2 = app) ∧
    ∀ record, app.world.store.throttle.get? id = some record → record.lastNotifiedAt.OnClock →
      target? r = some (.touchThrottle, id) →
      Input.optionalMessage TouchThrottle.record.codec .now r =
        .ok ⟨some (ThrottleView.ofRecord record).lastNotifiedAt⟩ →
      if record.lastNotifiedAt.FourDigitYear then
        (app.serve scope r).1.Answers (some (Showing.throttle record)) ∧
          (app.serve scope r).2.world.store = app.world.store
      else (app.serve scope r).1.status = 400 ∧ (app.serve scope r).2 = app := by
  intro app
  have hmemory : app.storage = Store.storage := storage_after moves
  obtain ⟨hintegrity, hordered⟩ := orderly_after clock interval capacity moves
  refine ⟨fun text i => Rfc3339.onClock_of_parse?, ?_, ?_, ?_, ?_⟩
  · intro hclock hshown
    have hempty : Store.empty.OnClock := ⟨nofun, nofun⟩
    exact (onClock_after rfl hclock hempty hshown).2
  · intro i hclock field
    rw [Field.timestamp_render hclock]
    exact if_congr i.fourDigitYear_iff rfl rfl
  · intro m u i hfound hdate hclock hasks hmessage hrepeats
    obtain ⟨hread, hunread⟩ := fixturePatch_repeated hrepeats hdate hclock
    have hhandle : ItemAction.handle app.interval .updateFixture id r = _ := handle_updateFixture hmessage
    split_ifs with hyear
    · obtain ⟨patch, hpatch, hrestates⟩ := hread hyear
      have hsame : m.withPatch patch = .ok m :=
        Fixture.withPatch_restated (fixtures_sound_after clock interval capacity moves id m hfound) hrestates
      rw [hpatch] at hhandle
      exact serve_of_yields hmemory hasks hhandle (yields_updateFixture_same hintegrity hfound hsame)
    · rw [hunread hyear] at hhandle
      rw [serve_of_refused hmemory hasks hhandle]
      exact ⟨status_notTimestamp scope _ _, rfl⟩
  · intro record hfound hclock hasks hmessage
    have hread := notificationTime_repeated hclock hmessage
    have hown := throttle_own_after clock interval capacity moves id record hfound
    split_ifs at hread ⊢ with hyear
    · have hhandle : ItemAction.handle app.interval .touchThrottle id r = (do
          let x ← Handler.ofAction (Command.touchThrottle id (some record.lastNotifiedAt)).action
          pure (.shown (Showing.throttle x))) := by
        rw [ItemAction.handle, hread]
        rfl
      exact serve_of_yields hmemory hasks hhandle (yields_touchThrottle_same hordered hfound hown)
    · have hhandle : ItemAction.handle app.interval .touchThrottle id r = Handler.ofInput
          (.error (Field.notTimestamp "lastNotifiedAt" (Rfc3339.render record.lastNotifiedAt))) := by
        rw [ItemAction.handle, hread]
        rfl
      rw [serve_of_refused hmemory hasks hhandle]
      exact ⟨status_notTimestamp scope _ _, rfl⟩

/-- A match is created at a leap second in New York and one in the first hour of the year 0 further east;
each is then given the time that its view has. -/
theorem own_timestamps_come_back_of_leap_second :
    let send (method : Method) (target : String) (body : List (String × Json)) : Request :=
      ⟨method, target, [("content-type", Text.Utf8.encode "application/json")],
        Text.Utf8.encode (Json.obj body).render⟩
    let create (time : String) : Move :=
      .request none (send .post "/api/v1/matches" [("tournamentId", .int 1), ("teamAId", .int 1),
        ("teamBId", .int 2), ("title", .str "final"), ("matchDate", .str time)])
    let moves := [create "0000-01-01T00:00:00+01:00", create "2016-12-31T18:59:60.1234567895-05:00"]
    let app := (start Store.storage .empty .epoch 1000000000 256).after moves
    let leap := send .patch "/api/v1/matches/1"
      [("week", .int 0), ("matchDate", .str "2016-12-31T23:59:60.123456789+00:00")]
    let early := send .patch "/api/v1/matches/2" [("matchDate", .str "-0001-12-31T23:00:00+00:00")]
    ((app.serve none leap).1.status = 200 ∧ (app.serve none leap).2.world.store = app.world.store) ∧
      (app.serve none early).1.status = 400 ∧ (app.serve none early).2 = app := by
  intro send create moves app leap early
  have hok {u : UpdateFixture} {r : Request}
      (h : (Input.message UpdateFixture.record.codec r).toOption = some u) :
      Input.message UpdateFixture.record.codec r = .ok u := by
    cases hread : Input.message UpdateFixture.record.codec r with
    | error refusal => rw [hread] at h; cases h
    | ok v => rw [hread] at h; cases h; rfl
  have hrows : (app.world.store.fixtures.rows.get? 1, app.world.store.fixtures.rows.get? 2) =
      (some ⟨1, ⟨1, 1, 2, "final", 0, some ⟨1483228799, 1123456789⟩⟩⟩,
        some ⟨2, ⟨1, 1, 2, "final", 0, some ⟨-62167222800, 0⟩⟩⟩) := by decide +kernel
  obtain ⟨hfirst, hsecond⟩ := Prod.mk.inj hrows
  obtain ⟨-, hshown, -, hleap, -⟩ := own_timestamps_come_back .epoch 1000000000 256 moves none leap 1
  obtain ⟨-, -, -, hearly, -⟩ := own_timestamps_come_back .epoch 1000000000 256 moves none early 2
  have hrun : (start Store.storage .empty .epoch 1000000000 256).after moves = app := rfl
  have hstored := (hshown (.inl (by decide)) (by simp [moves, create, Move.OnClock])).fixtures
  rw [hrun] at hleap hearly hstored
  clear_value app
  have hanswered := hleap _ ⟨none, none, none, none, some 0, some "2016-12-31T23:59:60.123456789+00:00"⟩ _
    hfirst rfl (hstored 1 _ hfirst _ rfl) (by decide +kernel) (hok (by decide +kernel))
    ⟨nofun, nofun, nofun, nofun, by simp [FixtureView.ofFixture], by decide +kernel⟩
  have hrefused := hearly _ ⟨none, none, none, none, none, some "-0001-12-31T23:00:00+00:00"⟩ _
    hsecond rfl (hstored 2 _ hsecond _ rfl) (by decide +kernel) (hok (by decide +kernel))
    ⟨nofun, nofun, nofun, nofun, nofun, by decide +kernel⟩
  rw [if_pos (by decide)] at hanswered
  rw [if_neg (by decide)] at hrefused
  obtain ⟨⟨hstatus, -⟩, hstore⟩ := hanswered
  exact ⟨⟨hstatus, hstore⟩, hrefused⟩

/-- An hour east of Greenwich the year 0 begins in the year before, which has no four digits. -/
theorem not_every_timestamp_comes_back :
    ¬ ∀ text i, Rfc3339.parse? text = some i → Rfc3339.parse? (Rfc3339.render i) = some i := by
  intro h
  have hread : Rfc3339.parse? "0000-01-01T00:00:00+01:00" = some ⟨-62167222800, 0⟩ := by decide +kernel
  have hshown : Rfc3339.parse? (Rfc3339.render ⟨-62167222800, 0⟩) = none := by decide +kernel
  rw [h _ _ hread] at hshown
  cases hshown

end Application

end Matchday
