import Matchday.Live.Session
import Matchday.Message.Failure
import Matchday.Message.Fixture
import Matchday.Message.GameClock
import Matchday.Message.PlayClock
import Matchday.Message.Scoreboard
import Matchday.Message.Throttle
import Matchday.Proofs.RecordText
import Mathlib.Data.List.Forall2

set_option autoImplicit false

namespace Matchday

open Matchday.Text
open Matchday.Json

def Text.IntRange.Covers (r : IntRange) (n : Option Int) : Prop := ∀ m ∈ n, r.contains m = true

namespace Json

open Matchday.Json.Read

theorem Plain.mono {levels more : Nat} {j : Json} (plain : j.Plain levels) (le : levels ≤ more) :
    j.Plain more := by
  induction levels generalizing more j with
  | zero => cases j <;> cases more <;> first | exact plain | exact plain.elim
  | succ levels ih =>
    obtain ⟨more, rfl⟩ : ∃ m, more = m + 1 := ⟨more - 1, by omega⟩
    cases j with
    | arr items => exact fun x hx => ih (plain x hx) (Nat.le_of_succ_le_succ le)
    | obj members => exact ⟨plain.1, fun m hm => ih (plain.2 m hm) (Nat.le_of_succ_le_succ le)⟩
    | _ => exact plain

namespace Codec

theorem isWord_of_contains {r : IntRange} (low : IsWord r.low) (high : IsWord r.high) {n : Int}
    (fits : r.contains n = true) : IsWord n := by
  simp only [IntRange.contains, Bool.and_eq_true, decide_eq_true_eq] at fits
  exact ⟨Int.le_trans low.1 fits.1, Int.le_trans fits.2 high.2⟩

structure IsNumber (c : Codec Int) (r : IntRange) : Prop where
  readsBack : ∀ {n : Int}, r.contains n = true → c.ReadsBack n
  option : ∀ {n : Option Int}, r.Covers n → c.option.ReadsBack n

theorem isNumber_integer {r : IntRange} (low : IsWord r.low) (high : IsWord r.high) :
    (integer r).IsNumber r where
  readsBack fits := readsBack_integer (isWord_of_contains low high fits) fits
  option covers := readsBack_option
    (fun n hn => readsBack_integer (isWord_of_contains low high (covers n hn)) (covers n hn))
    fun n hn => shows_integer (isWord_of_contains low high (covers n hn))

theorem isNumber_i32 : i32.IsNumber .i32 := isNumber_integer (by decide) (by decide)

theorem isNumber_i64 : i64.IsNumber .i64 := isNumber_integer (by decide) (by decide)

theorem isNumber_u32 : u32.IsNumber .u32 := isNumber_integer (by decide) (by decide)

theorem isNumber_u64 : u64.IsNumber .u64 := isNumber_integer (by decide) (by decide)

theorem readsBack_optionString (s : Option String) : string.option.ReadsBack s :=
  readsBack_option (fun v _ => readsBack_string v) fun v _ => shows_string v

theorem readsBack_optionBool (b : Option Bool) : bool.option.ReadsBack b :=
  readsBack_option (fun v _ => readsBack_bool v) fun v _ => shows_bool v

end Codec

end Json

open Matchday.Json.Codec

theorem WatchedTable.readsBack (t : WatchedTable) : codec.ReadsBack t :=
  readsBack_variant t.mem_all fun b _ h => by
    cases b <;> cases t <;> first | rfl | exact absurd h (by decide)

theorem Operation.readsBack (o : Operation) : codec.ReadsBack o :=
  readsBack_variant (by cases o <;> decide) fun b _ h => by
    cases b <;> cases o <;> first | rfl | exact absurd h (by decide)

theorem Channel.readsBack (c : Channel) : codec.ReadsBack c :=
  readsBack_variant c.mem_all fun ⟨t⟩ _ h => by
    obtain ⟨u⟩ := c
    cases t <;> cases u <;> first | rfl | exact absurd h (by decide)

theorem FailureCode.readsBack (c : FailureCode) : codec.ReadsBack c :=
  readsBack_variant (by cases c <;> decide) fun b _ h => by
    cases b <;> cases c <;> first | rfl | exact absurd h (by decide)

def ChangeEvent.Fits (e : ChangeEvent) : Prop :=
  IntRange.i32.Covers e.newId ∧ IntRange.i32.contains e.oldId ∧ IntRange.i32.Covers e.matchId

namespace Message

inductive Kind
  | event
  | frame
  | failure
  | createFixture
  | updateFixture
  | fixture
  | createScoreboard
  | updateScoreboard
  | scoreboard
  | createGameClock
  | updateGameClock
  | gameClock
  | transition
  | createPlayClock
  | updatePlayClock
  | startPlayClock
  | playClock
  | touchThrottle
  | throttle
  | acquire

namespace Kind

abbrev Value : Kind → Type
  | event => ChangeEvent
  | frame => ChangeFrame
  | failure => Failure
  | createFixture => CreateFixture
  | updateFixture => UpdateFixture
  | fixture => FixtureView
  | createScoreboard => CreateScoreboard
  | updateScoreboard => UpdateScoreboard
  | scoreboard => ScoreboardView
  | createGameClock => CreateGameClock
  | updateGameClock => UpdateGameClock
  | gameClock => GameClockView
  | transition => ClockTransition
  | createPlayClock => CreatePlayClock
  | updatePlayClock => UpdatePlayClock
  | startPlayClock => StartPlayClock
  | playClock => PlayClockView
  | touchThrottle => TouchThrottle
  | throttle => ThrottleView
  | acquire => AcquireView

def record : (k : Kind) → Record k.Value
  | event => ChangeEvent.record
  | frame => ChangeFrame.record
  | failure => Failure.record
  | createFixture => CreateFixture.record
  | updateFixture => UpdateFixture.record
  | fixture => FixtureView.record
  | createScoreboard => CreateScoreboard.record
  | updateScoreboard => UpdateScoreboard.record
  | scoreboard => ScoreboardView.record
  | createGameClock => CreateGameClock.record
  | updateGameClock => UpdateGameClock.record
  | gameClock => GameClockView.record
  | transition => ClockTransition.record
  | createPlayClock => CreatePlayClock.record
  | updatePlayClock => UpdatePlayClock.record
  | startPlayClock => StartPlayClock.record
  | playClock => PlayClockView.record
  | touchThrottle => TouchThrottle.record
  | throttle => ThrottleView.record
  | acquire => AcquireView.record

def codec (k : Kind) : Codec k.Value := k.record.codec

open IntRange in
/-- The numbers of a message are of the types of their fields. The details of a failure are any value
without doubles but null that is not nested too deep to be read. -/
def Fits : (k : Kind) → k.Value → Prop
  | event, e => e.Fits
  | frame, f => f.payload.Fits
  | failure, f => ∀ details ∈ f.details, details ≠ .null ∧ ∃ levels < Read.nestingLimit, details.Plain levels
  | createFixture, m =>
    i32.Covers m.tournamentId ∧ i32.Covers m.teamAId ∧ i32.Covers m.teamBId ∧ i32.Covers m.week
  | updateFixture, m =>
    i32.Covers m.tournamentId ∧ i32.Covers m.teamAId ∧ i32.Covers m.teamBId ∧ i32.Covers m.week
  | fixture, m =>
    i32.contains m.id ∧ i32.contains m.tournamentId ∧ i32.contains m.teamAId ∧ i32.contains m.teamBId ∧
      i32.contains m.week
  | createScoreboard, m =>
    i32.Covers m.matchId ∧ i32.Covers m.scoreTeamA ∧ i32.Covers m.scoreTeamB ∧ i32.Covers m.period
  | updateScoreboard, m => i32.Covers m.scoreTeamA ∧ i32.Covers m.scoreTeamB ∧ i32.Covers m.period
  | scoreboard, m =>
    i32.contains m.id ∧ i32.contains m.matchId ∧ i32.contains m.scoreTeamA ∧ i32.contains m.scoreTeamB ∧
      i32.contains m.period
  | createGameClock, m => i32.Covers m.matchId ∧ i32.Covers m.gameclockMax ∧ i32.Covers m.gameclock
  | updateGameClock, m =>
    i32.Covers m.gameclock ∧ i32.Covers m.gameclockMax ∧ i64.Covers m.startedAtMs ∧
      u32.Covers m.expectedVersion
  | gameClock, m =>
    i32.contains m.id ∧ i32.contains m.matchId ∧ i32.contains m.gameclock ∧ i32.contains m.gameclockMax ∧
      i64.Covers m.startedAtMs ∧ u32.contains m.version
  | transition, m => u32.Covers m.expectedVersion
  | createPlayClock, m => i32.Covers m.matchId ∧ i32.Covers m.playclock
  | updatePlayClock, m => i32.Covers m.playclock ∧ u32.Covers m.expectedVersion
  | startPlayClock, m => i32.Covers m.seconds ∧ u32.Covers m.expectedVersion
  | playClock, m =>
    i32.contains m.id ∧ i32.contains m.matchId ∧ i32.Covers m.playclock ∧ u32.contains m.version
  | touchThrottle, _ => True
  | throttle, m => i32.contains m.matchId
  | acquire, m => u64.Covers m.retryAfterMs

end Kind

open Kind

theorem readsBack_event {e : ChangeEvent} (fits : event.Fits e) : event.codec.ReadsBack e :=
  have ⟨hnew, hold, hmatch⟩ := fits
  Record.readsBack (by decide) rfl <|
    .required e.table.readsBack <|
    .required e.operation.readsBack <|
    .trailing (isNumber_i32.option hnew) <|
    .required (isNumber_i32.readsBack hold) <|
    .trailing (isNumber_i32.option hmatch) trivial

theorem readsBack_frame {f : ChangeFrame} (fits : frame.Fits f) : frame.codec.ReadsBack f :=
  Record.readsBack (by decide) rfl <|
    .required f.channel.readsBack <|
    .required (readsBack_event fits) trivial

theorem readsBack_failure {f : Failure} (fits : failure.Fits f) : failure.codec.ReadsBack f := by
  have hdetails : Codec.json.option.ReadsBack f.details := by
    refine readsBack_option (fun j hj => ?_) fun j hj => ?_
    · -- The failure itself is one level of the text.
      obtain ⟨-, levels, hlevels, hplain⟩ := fits j hj
      exact readsBack_json (hplain.mono (Nat.le_pred_of_lt hlevels))
    · obtain ⟨hnull, levels, -, hplain⟩ := fits j hj
      exact ⟨⟨levels, hplain⟩, hnull⟩
  exact Record.readsBack (by decide) rfl <|
    .required f.code.readsBack <|
    .required (readsBack_string f.message) <|
    .optional (readsBack_optionString f.traceId) <|
    .optional hdetails trivial

-- A fixture is created and updated by messages of the same fields.
theorem readBack_fixtureFields {tournamentId teamAId teamBId week : Option Int}
    (htournament : IntRange.i32.Covers tournamentId) (ha : IntRange.i32.Covers teamAId)
    (hb : IntRange.i32.Covers teamBId) (hweek : IntRange.i32.Covers week)
    (title matchDate : Option String) :
    CreateFixture.record.fields.ReadBack (tournamentId, teamAId, teamBId, title, week, matchDate, ()) :=
  .nullable (isNumber_i32.option htournament) <|
  .nullable (isNumber_i32.option ha) <|
  .nullable (isNumber_i32.option hb) <|
  .nullable (readsBack_optionString title) <|
  .nullable (isNumber_i32.option hweek) <|
  .nullable (readsBack_optionString matchDate) trivial

theorem readsBack_createFixture {m : CreateFixture} (fits : createFixture.Fits m) :
    createFixture.codec.ReadsBack m :=
  have ⟨htournament, ha, hb, hweek⟩ := fits
  Record.readsBack (by decide) rfl (readBack_fixtureFields htournament ha hb hweek m.title m.matchDate)

theorem readsBack_updateFixture {m : UpdateFixture} (fits : updateFixture.Fits m) :
    updateFixture.codec.ReadsBack m :=
  have ⟨htournament, ha, hb, hweek⟩ := fits
  Record.readsBack (by decide) rfl (readBack_fixtureFields htournament ha hb hweek m.title m.matchDate)

theorem readsBack_fixture {m : FixtureView} (fits : fixture.Fits m) : fixture.codec.ReadsBack m :=
  have ⟨hid, htournament, ha, hb, hweek⟩ := fits
  Record.readsBack (by decide) rfl <|
    .required (isNumber_i32.readsBack hid) <|
    .required (isNumber_i32.readsBack htournament) <|
    .required (isNumber_i32.readsBack ha) <|
    .required (isNumber_i32.readsBack hb) <|
    .required (readsBack_string m.title) <|
    .required (isNumber_i32.readsBack hweek) <|
    .nullable (readsBack_optionString m.matchDate) trivial

theorem readsBack_createScoreboard {m : CreateScoreboard} (fits : createScoreboard.Fits m) :
    createScoreboard.codec.ReadsBack m :=
  have ⟨hmatch, ha, hb, hperiod⟩ := fits
  Record.readsBack (by decide) rfl <|
    .nullable (isNumber_i32.option hmatch) <|
    .nullable (isNumber_i32.option ha) <|
    .nullable (isNumber_i32.option hb) <|
    .nullable (isNumber_i32.option hperiod) <|
    .nullable (readsBack_optionBool m.isFlag) trivial

theorem readsBack_updateScoreboard {m : UpdateScoreboard} (fits : updateScoreboard.Fits m) :
    updateScoreboard.codec.ReadsBack m :=
  have ⟨ha, hb, hperiod⟩ := fits
  Record.readsBack (by decide) rfl <|
    .nullable (isNumber_i32.option ha) <|
    .nullable (isNumber_i32.option hb) <|
    .nullable (isNumber_i32.option hperiod) <|
    .nullable (readsBack_optionBool m.isFlag) trivial

theorem readsBack_scoreboard {m : ScoreboardView} (fits : scoreboard.Fits m) :
    scoreboard.codec.ReadsBack m :=
  have ⟨hid, hmatch, ha, hb, hperiod⟩ := fits
  Record.readsBack (by decide) rfl <|
    .required (isNumber_i32.readsBack hid) <|
    .required (isNumber_i32.readsBack hmatch) <|
    .required (isNumber_i32.readsBack ha) <|
    .required (isNumber_i32.readsBack hb) <|
    .required (isNumber_i32.readsBack hperiod) <|
    .required (readsBack_bool m.isFlag) trivial

theorem readsBack_createGameClock {m : CreateGameClock} (fits : createGameClock.Fits m) :
    createGameClock.codec.ReadsBack m :=
  have ⟨hmatch, hmax, hclock⟩ := fits
  Record.readsBack (by decide) rfl <|
    .nullable (isNumber_i32.option hmatch) <|
    .nullable (isNumber_i32.option hmax) <|
    .nullable (isNumber_i32.option hclock) <|
    .nullable (readsBack_optionString m.status) trivial

theorem readsBack_updateGameClock {m : UpdateGameClock} (fits : updateGameClock.Fits m) :
    updateGameClock.codec.ReadsBack m :=
  have ⟨hclock, hmax, hstarted, hversion⟩ := fits
  Record.readsBack (by decide) rfl <|
    .nullable (isNumber_i32.option hclock) <|
    .nullable (isNumber_i32.option hmax) <|
    .nullable (readsBack_optionString m.status) <|
    .nullable (isNumber_i64.option hstarted) <|
    .nullable (isNumber_u32.option hversion) trivial

theorem readsBack_gameClock {m : GameClockView} (fits : gameClock.Fits m) : gameClock.codec.ReadsBack m :=
  have ⟨hid, hmatch, hclock, hmax, hstarted, hversion⟩ := fits
  Record.readsBack (by decide) rfl <|
    .required (isNumber_i32.readsBack hid) <|
    .required (isNumber_i32.readsBack hmatch) <|
    .required (isNumber_i32.readsBack hclock) <|
    .required (isNumber_i32.readsBack hmax) <|
    .required (readsBack_string m.status) <|
    .nullable (isNumber_i64.option hstarted) <|
    .required (isNumber_u32.readsBack hversion) trivial

theorem readsBack_transition {m : ClockTransition} (fits : transition.Fits m) :
    transition.codec.ReadsBack m :=
  Record.readsBack (by decide) rfl <|
    .nullable (isNumber_u32.option fits) trivial

theorem readsBack_createPlayClock {m : CreatePlayClock} (fits : createPlayClock.Fits m) :
    createPlayClock.codec.ReadsBack m :=
  have ⟨hmatch, hclock⟩ := fits
  Record.readsBack (by decide) rfl <|
    .nullable (isNumber_i32.option hmatch) <|
    .nullable (isNumber_i32.option hclock) <|
    .nullable (readsBack_optionString m.status) trivial

theorem readsBack_updatePlayClock {m : UpdatePlayClock} (fits : updatePlayClock.Fits m) :
    updatePlayClock.codec.ReadsBack m :=
  have ⟨hclock, hversion⟩ := fits
  Record.readsBack (by decide) rfl <|
    .nullable (isNumber_i32.option hclock) <|
    .nullable (readsBack_optionString m.status) <|
    .nullable (isNumber_u32.option hversion) trivial

theorem readsBack_startPlayClock {m : StartPlayClock} (fits : startPlayClock.Fits m) :
    startPlayClock.codec.ReadsBack m :=
  have ⟨hseconds, hversion⟩ := fits
  Record.readsBack (by decide) rfl <|
    .nullable (isNumber_i32.option hseconds) <|
    .nullable (isNumber_u32.option hversion) trivial

theorem readsBack_playClock {m : PlayClockView} (fits : playClock.Fits m) : playClock.codec.ReadsBack m :=
  have ⟨hid, hmatch, hclock, hversion⟩ := fits
  Record.readsBack (by decide) rfl <|
    .required (isNumber_i32.readsBack hid) <|
    .required (isNumber_i32.readsBack hmatch) <|
    .nullable (isNumber_i32.option hclock) <|
    .required (readsBack_string m.status) <|
    .required (isNumber_u32.readsBack hversion) trivial

theorem readsBack_touchThrottle (m : TouchThrottle) : touchThrottle.codec.ReadsBack m :=
  Record.readsBack (by decide) rfl <|
    .nullable (readsBack_optionString m.lastNotifiedAt) trivial

theorem readsBack_throttle {m : ThrottleView} (fits : throttle.Fits m) : throttle.codec.ReadsBack m :=
  Record.readsBack (by decide) rfl <|
    .required (isNumber_i32.readsBack fits) <|
    .required (readsBack_string m.lastNotifiedAt) trivial

theorem readsBack_acquire {m : AcquireView} (fits : acquire.Fits m) : acquire.codec.ReadsBack m :=
  Record.readsBack (by decide) rfl <|
    .required (readsBack_bool m.emit) <|
    .required (readsBack_string m.lastNotifiedAt) <|
    .optional (isNumber_u64.option fits) trivial

theorem Kind.Fits.readsBack {k : Kind} {m : k.Value} (fits : k.Fits m) : k.codec.ReadsBack m :=
  match k with
  | event => readsBack_event fits
  | frame => readsBack_frame fits
  | failure => readsBack_failure fits
  | createFixture => readsBack_createFixture fits
  | updateFixture => readsBack_updateFixture fits
  | fixture => readsBack_fixture fits
  | createScoreboard => readsBack_createScoreboard fits
  | updateScoreboard => readsBack_updateScoreboard fits
  | scoreboard => readsBack_scoreboard fits
  | createGameClock => readsBack_createGameClock fits
  | updateGameClock => readsBack_updateGameClock fits
  | gameClock => readsBack_gameClock fits
  | transition => readsBack_transition fits
  | createPlayClock => readsBack_createPlayClock fits
  | updatePlayClock => readsBack_updatePlayClock fits
  | startPlayClock => readsBack_startPlayClock fits
  | playClock => readsBack_playClock fits
  | touchThrottle => readsBack_touchThrottle m
  | throttle => readsBack_throttle fits
  | acquire => readsBack_acquire fits

theorem Kind.Fits.ofText_text {k : Kind} {m : k.Value} (fits : k.Fits m) :
    k.codec.ofText (k.codec.text m) = .ok m := Codec.ofText_text fits.readsBack

theorem text_changeFrame (c : Channel) (e : ChangeEvent) :
    ChangeFrame.text ⟨c, e⟩ =
      "\x7b\"channel\":\"" ++ c.name ++ "\",\"payload\":" ++ e.payload ++ "\x7d" := by
  have hname : quote c.name = '"' :: c.name.toList ++ ['"'] := by
    obtain ⟨t⟩ := c
    cases t <;> decide
  have hpayload : e.payload.toList = (ChangeEvent.record.encode e).chars := String.toList_ofList
  have hframe : ChangeFrame.record.codec.encode ⟨c, e⟩ =
      .obj [("channel", .str c.name), ("payload", ChangeEvent.record.encode e)] := rfl
  have hopening : "\x7b\"channel\":\"".toList = '\x7b' :: quote "channel" ++ [':', '"'] := by decide
  have hmiddle : "\",\"payload\":".toList = '"' :: ',' :: quote "payload" ++ [':'] := by decide
  have hclosing : "\x7d".toList = ['\x7d'] := rfl
  rw [← String.toList_inj, ChangeFrame.text, Codec.text, hframe, render, String.toList_ofList]
  simp only [chars, charsOfMembers, hname, String.toList_append, hopening, hmiddle, hclosing, hpayload,
    List.append_assoc, List.cons_append, List.nil_append]

/-- Every message whose numbers are those of its fields' types is read back from its text, and no other
has that text. What a session relays are the frames of the events in turn: each holds the payload of its
event, and is read back as its channel and its event. -/
theorem texts_read_back :
    (∀ (k : Kind) (m : k.Value), k.Fits m →
      k.codec.ofText (k.codec.text m) = .ok m ∧
        ∀ n : k.Value, k.Fits n → k.codec.text n = k.codec.text m → n = m) ∧
    ∀ events : List (Channel × ChangeEvent), (∀ s ∈ events, s.2.Fits) →
      List.Forall₂ (fun sent s => ∃ frame : ChangeFrame, sent = .change frame ∧
          frame.text =
            "\x7b\"channel\":\"" ++ s.1.name ++ "\",\"payload\":" ++ s.2.payload ++ "\x7d" ∧
          ChangeEvent.record.codec.ofText s.2.payload = .ok s.2 ∧
          ChangeFrame.record.codec.ofText frame.text = .ok ⟨s.1, s.2⟩)
        (Live.Session.relay events) events := by
  refine ⟨fun k m fits => ⟨fits.ofText_text, fun n hn htext => ?_⟩, fun events fits => ?_⟩
  · have hread := hn.ofText_text
    rw [htext, fits.ofText_text] at hread
    exact (Except.ok.inj hread).symm
  · rw [Live.Session.relay, List.forall₂_map_left_iff, List.forall₂_same]
    intro s hs
    have hevent : event.Fits s.2 := fits s hs
    have hframe : frame.Fits ⟨s.1, s.2⟩ := fits s hs
    exact ⟨⟨s.1, s.2⟩, rfl, text_changeFrame s.1 s.2, hevent.ofText_text, hframe.ofText_text⟩

theorem texts_read_back_of_failure_and_deletion :
    let f : Failure :=
      { code := .conflict
        message := "a \"b\" \\ \n\x01 é 🏈"
        traceId := some ""
        details := some (.obj [("code", .str "\x1f"), ("numbers", .arr [.int (-9223372036854775808),
          .int 18446744073709551615, .null, .obj []])]) }
    let e : ChangeEvent := ⟨.gameclock, .delete, none, -2147483648, some 2147483647⟩
    Failure.record.codec.ofText (Failure.record.codec.text f) = .ok f ∧
      ∃ frame, Live.Session.relay [(⟨.gameclock⟩, e)] = [.change frame] ∧
        ChangeFrame.record.codec.ofText frame.text = .ok ⟨⟨.gameclock⟩, e⟩ := by
  intro f e
  have hdetails : ∀ j ∈ f.details, j ≠ .null ∧ ∃ levels < Read.nestingLimit, j.Plain levels := by
    rintro j ⟨⟩
    have hkeys : "code" < "numbers" := by decide
    exact ⟨nofun, 3, by decide, by simpa [Plain, Read.IsWord] using hkeys⟩
  have hevent : ∀ s ∈ [((⟨.gameclock⟩ : Channel), e)], s.2.Fits := by
    simp [e, ChangeEvent.Fits, IntRange.Covers, IntRange.contains, IntRange.i32]
  obtain ⟨frame, hsent, -, -, hread⟩ := List.forall₂_cons.mp (texts_read_back.2 _ hevent) |>.1
  exact ⟨(texts_read_back.1 .failure f hdetails).1, frame, congrArg (fun s => [s]) hsent, hread⟩

end Message

end Matchday
