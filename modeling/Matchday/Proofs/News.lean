import Matchday.Proofs.Outcomes
import Matchday.Proofs.Serving

set_option autoImplicit false

namespace Matchday

open Matchday.Api
open Matchday.Http
open Matchday.Service

def Json.number? (j : Json) (key : String) : Option Int :=
  match j.get? key with
  | some (.int n) => some n
  | _ => none

def Http.Response.shown (r : Response) : Json :=
  match r.body with
  | .json value => value
  | _ => .null

inductive News
  | nothing
  | created (t : WatchedTable) (body : Json)
  | changed (t : WatchedTable) (body : Json)
  | deleted (t : WatchedTable) (id : Int)
  | notified (matchId : Int) (body : Json)
  | cleared (matchId : Int)

def Api.Creation.table : Creation → WatchedTable
  | fixture => .fixture
  | part p => p.table

def Api.ItemAction.news (a : ItemAction) (id : Int) (response : Response) : News :=
  match a with
  | getFixture | getPart _ | getPartOf _ | getThrottle => .nothing
  | updateFixture => .changed .fixture response.shown
  | updatePart p => .changed p.table response.shown
  | startClock k => .changed k.part.table response.shown
  | pauseGameClock | resetGameClock => .changed .gameclock response.shown
  | stopPlayClock => .changed .playclock response.shown
  | deleteFixture => .deleted .fixture id
  | deletePart p => .deleted p.table id
  | touchThrottle => .notified id response.shown
  | acquireThrottle => if tellsEmit response then .notified id response.shown else .nothing
  | clearThrottle => .cleared id

def Api.Route.news (route : Route) (response : Response) : News :=
  match route with
  | create c => .created c.table response.shown
  | item a segment =>
    match Input.id segment with
    | .ok id => a.news id response
    | .error _ => .nothing

structure Exchange where
  request : Request
  response : Response

def Exchange.news (e : Exchange) : News :=
  match Route.find? e.request.method e.request.segments with
  | some route => if e.response.isSuccess then route.news e.response else .nothing
  | none => .nothing

theorem Exchange.news_of_failure {e : Exchange} (failed : e.response.isSuccess = false) :
    e.news = .nothing := by
  rw [news]
  split
  · rw [failed]
    rfl
  · rfl

theorem number?_part_id (p : Part) (row : p.Row) :
    (Showing.part p row).number? "id" = some (p.rowId row) := by
  cases p <;> rfl

theorem number?_part_matchId (p : Part) (row : p.Row) :
    (Showing.part p row).number? "matchId" = some (p.ownerId row) := by
  cases p <;> rfl

namespace Store

/-- What the news that a response tells means for the store. -/
inductive Reports (s : Store) : News → Store → Prop
  | nothing : Reports s .nothing s
  | fixtureCreated (row : Fixture) :
    Reports s (.created .fixture (Showing.fixture row))
      { s with fixtures := ⟨s.fixtures.rows.insert row.id row, row.id⟩ }
  | fixtureChanged (row : Fixture) :
    Reports s (.changed .fixture (Showing.fixture row))
      { s with fixtures.rows := s.fixtures.rows.insert row.id row }
  | fixtureDeleted (id : Int) : Reports s (.deleted .fixture id) (s.withoutFixture id)
  | partCreated {p : Part} {row : p.Row} (free : s.findPartByMatch p (p.ownerId row) = none)
      (next : (s.part p).nextId? = some (p.rowId row)) :
    Reports s (.created p.table (Showing.part p row))
      (s.setPart p ⟨(s.part p).rows.insert (p.rowId row) row, p.rowId row⟩)
  | partChanged {p : Part} {row old : p.Row} (found : s.findPart p (p.rowId row) = some old)
      (owner : p.ownerId row = p.ownerId old) :
    Reports s (.changed p.table (Showing.part p row)) (s.putPart p row)
  | partDeleted (p : Part) (id : Int) :
    Reports s (.deleted p.table id) (s.setPart p { s.part p with rows := (s.part p).rows.erase id })
  | notified {m : Int} {record : ThrottleRecord} (own : record.matchId = m) :
    Reports s (.notified m (Showing.throttle record))
      { s with throttle := s.throttle.insert m record }
  | acquired {m : Int} {record : ThrottleRecord} (own : record.matchId = m) :
    Reports s (.notified m (Showing.decision (.emit record)))
      { s with throttle := s.throttle.insert m record }
  | cleared (m : Int) : Reports s (.cleared m) { s with throttle := s.throttle.erase m }

end Store

variable {now : Instant} {s s' : Store}

theorem Service.reports_created {p : Part} {draft : p.Draft} {row : p.Row}
    (h : Yields now s (createPart p draft) row s') :
    s.Reports (.created p.table (Showing.part p row)) s' := by
  obtain ⟨⟨hfree, hnext, -⟩, rfl⟩ := yields_createPart h
  exact .partCreated hfree hnext

theorem Api.Creation.Performs.reports {creation : Creation} {c : Command} {reply : c.Result → Reply}
    (performs : creation.Performs c reply) {x : c.Result} (yields : Yields now s c.action x s') :
    s.Reports (.created creation.table (reply x).response.shown) s' := by
  cases performs with
  | fixture draft =>
    rw [(yields_createFixture yields).2]
    exact .fixtureCreated x
  | scoreboard draft =>
    simp only [Command.action, createScoreboard, yields_bind, yields_ofExcept] at yields
    obtain ⟨-, u, ⟨-, rfl⟩, hcreated⟩ := yields
    exact reports_created hcreated
  | gameclock draft =>
    simp only [Command.action, createGameClock, yields_bind, yields_ofExcept] at yields
    obtain ⟨started, u, hstarted, -, v, ⟨-, rfl⟩, hcreated⟩ := yields
    obtain rfl := yields_startedDraft hstarted
    exact reports_created hcreated
  | playclock draft =>
    simp only [Command.action, createPlayClock, yields_bind, yields_ofExcept] at yields
    obtain ⟨-, u, ⟨-, rfl⟩, hcreated⟩ := yields
    exact reports_created hcreated

theorem Service.reports_transition (hs : s.Integrity) {k : ClockKind} {id : Int}
    {expected : Option Version} {step : k.Row → Except ClockError k.Row} {row : k.Row}
    (advances : ∀ old, step old = .ok row → Advances k old row)
    (h : Yields now s (transition k id expected step) row s') :
    s.Reports (.changed k.part.table (Showing.part k.part row)) s' := by
  obtain ⟨⟨old, hold, hstep⟩, rfl⟩ := yields_transition h
  obtain ⟨hid, howner, -⟩ := advances old hstep
  have hkey : k.part.rowId row = id := hid.trans ((hs.parts k.part).own id old hold)
  exact .partChanged (hkey ▸ hold) howner

theorem Service.reports_timed (hs : s.Integrity) {id : Int}
    {expected : Option Version} {step : Int → GameClock → Except ClockError GameClock} {row : GameClock}
    (advances : ∀ t old, step t old = .ok row → Advances .game old row)
    (h : Yields now s (do let t ← timeMs; transition .game id expected (step t)) row s') :
    s.Reports (.changed .gameclock (Showing.part .gameclock row)) s' := by
  simp only [yields_bind, yields_timeMs] at h
  obtain ⟨t, u, ⟨-, rfl⟩, htransition⟩ := h
  exact reports_transition (k := .game) hs (advances t) htransition

theorem Api.ItemAction.Performs.reports (hs : s.Integrity) {interval : Duration} {id : Int}
    {a : ItemAction} {c : Command} {reply : c.Result → Reply} (performs : a.Performs interval id c reply)
    {x : c.Result} (yields : Yields now s c.action x s') :
    s.Reports (a.news id (reply x).response) s' := by
  cases performs with
  | getFixture =>
    rw [(yields_getFixture.mp yields).2]
    exact .nothing
  | updateFixture patch =>
    rw [(yields_updateFixture yields).2]
    exact .fixtureChanged x
  | deleteFixture =>
    rw [(yields_deleteFixture yields).2]
    exact .fixtureDeleted id
  | getPart p =>
    rw [(yields_getPart.mp yields).2]
    exact .nothing
  | getPartOf p =>
    rw [(yields_getPartByMatch.mp yields).2]
    exact .nothing
  | updateScoreboard patch =>
    obtain ⟨⟨old, hold, hid, howner⟩, rfl⟩ := yields_updateScoreboard yields
    have hkey : Part.rowId .scoreboard x = id := hid.trans ((hs.parts .scoreboard).own id old hold)
    exact .partChanged (p := .scoreboard) (hkey ▸ hold) howner
  | updateGameClock patch expected => exact reports_timed hs (fun _ _ => advances_gamePatch) yields
  | updatePlayClock patch expected =>
    exact reports_transition (k := .play) hs (fun _ => advances_playPatch) yields
  | deletePart p =>
    rw [(yields_deletePart yields).2]
    exact .partDeleted p id
  | startGameClock expected => exact reports_timed hs (fun _ _ => advances_gameStart) yields
  | startPlayClock seconds expected =>
    exact reports_transition (k := .play) hs (fun _ => advances_playStart) yields
  | pauseGameClock expected => exact reports_timed hs (fun _ _ => advances_gamePause) yields
  | resetGameClock expected =>
    exact reports_transition (k := .game) hs (fun _ => advances_gameReset) yields
  | stopPlayClock expected =>
    exact reports_transition (k := .play) hs (fun _ => advances_playStop) yields
  | getThrottle =>
    rw [(yields_getThrottle.mp yields).2]
    exact .nothing
  | touchThrottle time =>
    obtain ⟨hrecord, rfl⟩ := yields_touchThrottle yields
    exact .notified (congrArg ThrottleRecord.matchId hrecord)
  | acquireThrottle =>
    rcases yields_acquireThrottle yields with ⟨rfl, rfl⟩ | ⟨last, wait, rfl, rfl⟩
    · exact .acquired rfl
    · exact .nothing
  | clearThrottle =>
    rw [yields_clearThrottle yields]
    exact .cleared id

theorem Api.Served.reports (hs : s.Integrity) {interval : Duration} {route : Route}
    {response : Response} (h : Served interval now s route response s') :
    s.Reports (if response.isSuccess then route.news response else .nothing) s' := by
  cases h with
  | refused failed =>
    rw [failed]
    exact .nothing
  | @ran c reply x s' performs yields =>
    rw [isSuccess_reply, if_pos rfl]
    cases performs with
    | create performs => exact performs.reports yields
    | item read performs =>
      rw [Route.news, read]
      exact performs.reports hs yields

namespace Application

variable {app : Application Store}

theorem reports_serve (memory : app.storage = Store.storage) (hs : app.world.store.Integrity)
    (scope : Option TraceId) (r : Request) :
    app.world.store.Reports (Exchange.news ⟨r, (app.serve scope r).1⟩)
      (app.serve scope r).2.world.store := by
  cases hfound : Route.find? r.method r.segments with
  | none =>
    rw [serve_of_no_route hfound, Exchange.news, hfound]
    exact .nothing
  | some route =>
    rw [Exchange.news, hfound]
    exact (served memory _ hfound).reports hs

end Application

end Matchday
