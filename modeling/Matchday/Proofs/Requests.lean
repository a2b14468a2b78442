import Matchday.Api.Handler
import Matchday.Proofs.Alone
import Mathlib.Data.Option.Basic

set_option autoImplicit false

namespace Matchday.Api

open Matchday
open Matchday.Http
open Matchday.Message
open Matchday.Service

def ItemAction.mutates : ItemAction → Bool
  | getFixture | getPart _ | getPartOf _ => false
  | getThrottle | touchThrottle | acquireThrottle | clearThrottle => false
  | _ => true

def Route.mutates : Route → Bool
  | create _ => true
  | item a _ => a.mutates

theorem ItemAction.mutates_of_get {a : ItemAction} (h : a.method = .get) : a.mutates = false := by
  cases a <;> first | rfl | cases h

theorem Route.method_of_find? {method : Method} {segments : List String} {a : ItemAction}
    {segment : String} (h : Route.find? method segments = some (.item a segment)) :
    method = a.method := by
  rw [find?] at h
  rcases (Option.orElse_eq_some _ _ _).mp h with hcreate | ⟨-, hitem⟩
  · obtain ⟨c, -, hc⟩ := List.exists_of_findSome?_eq_some hcreate
    split_ifs at hc
    cases hc
  · obtain ⟨b, -, hb⟩ := List.exists_of_findSome?_eq_some hitem
    split_ifs at hb with hmethod
    obtain ⟨segment', -, he⟩ := Option.map_eq_some_iff.mp hb
    cases he
    exact hmethod

theorem Route.exists_item_of_get {segments : List String} {route : Route}
    (h : Route.find? .get segments = some route) :
    ∃ a segment, route = .item a segment ∧ a.method = .get := by
  have hcreate : (Creation.all.findSome? fun c =>
      if Method.get = .post ∧ segments = c.path then some (create c) else none) = none := by
    refine List.findSome?_eq_none_iff.mpr ?_
    intro c _
    exact if_neg fun hc => by cases hc.1
  rw [find?, hcreate] at h
  obtain ⟨a, -, ha⟩ := List.exists_of_findSome?_eq_some h
  split_ifs at ha with hmethod
  obtain ⟨segment, -, rfl⟩ := Option.map_eq_some_iff.mp ha
  exact ⟨a, segment, rfl, hmethod.symm⟩

theorem Route.mutates_of_get {segments : List String} {route : Route}
    (h : Route.find? .get segments = some route) : route.mutates = false := by
  obtain ⟨a, segment, rfl, hmethod⟩ := Route.exists_item_of_get h
  exact ItemAction.mutates_of_get hmethod

namespace Handler

/-- A handler that refuses its request or runs one command and replies with what it returned. -/
inductive Runs (performs : (c : Command) → (c.Result → Reply) → Prop) : Handler Reply → Prop
  | refused (refusal : Refusal) : Runs performs (ofInput (.error refusal))
  | ran (c : Command) (reply : c.Result → Reply) (performed : performs c reply) :
    Runs performs (do let x ← ofAction c.action; pure (reply x))

variable {performs performs' : (c : Command) → (c.Result → Reply) → Prop}

theorem Runs.mono {h : Handler Reply} (runs : Runs performs h)
    (weaker : ∀ c reply, performs c reply → performs' c reply) : Runs performs' h := by
  cases runs with
  | refused refusal => exact .refused refusal
  | ran c reply performed => exact .ran c reply (weaker c reply performed)

end Handler

inductive Creation.Performs : Creation → (c : Command) → (c.Result → Reply) → Prop
  | fixture (draft : FixtureDraft) :
    Performs .fixture (.createFixture draft) fun row => .created (Showing.fixture row)
  | scoreboard (draft : ScoreboardDraft) :
    Performs (.part .scoreboard) (.createScoreboard draft) fun row =>
      .created (Showing.part .scoreboard row)
  | gameclock (draft : GameClockDraft) :
    Performs (.part .gameclock) (.createGameClock draft) fun row =>
      .created (Showing.part .gameclock row)
  | playclock (draft : PlayClockDraft) :
    Performs (.part .playclock) (.createPlayClock draft) fun row =>
      .created (Showing.part .playclock row)

inductive ItemAction.Performs (interval : Duration) (id : Int) :
    ItemAction → (c : Command) → (c.Result → Reply) → Prop
  | getFixture : Performs interval id .getFixture (.getFixture id) fun row =>
      .shown (Showing.fixture row)
  | updateFixture (patch : FixturePatch) :
    Performs interval id .updateFixture (.updateFixture id patch) fun row =>
      .shown (Showing.fixture row)
  | deleteFixture : Performs interval id .deleteFixture (.deleteFixture id) fun _ => .gone
  | getPart (p : Part) : Performs interval id (.getPart p) (.getPart p id) fun row =>
      .shown (Showing.part p row)
  | getPartOf (p : Part) : Performs interval id (.getPartOf p) (.getPartByMatch p id) fun row =>
      .shown (Showing.part p row)
  | updateScoreboard (patch : ScoreboardPatch) :
    Performs interval id (.updatePart .scoreboard) (.updateScoreboard id patch) fun row =>
      .shown (Showing.part .scoreboard row)
  | updateGameClock (patch : GameClockPatch) (expected : Option Version) :
    Performs interval id (.updatePart .gameclock) (.updateGameClock id patch expected) fun row =>
      .shown (Showing.part .gameclock row)
  | updatePlayClock (patch : PlayClockPatch) (expected : Option Version) :
    Performs interval id (.updatePart .playclock) (.updatePlayClock id patch expected) fun row =>
      .shown (Showing.part .playclock row)
  | deletePart (p : Part) : Performs interval id (.deletePart p) (.deletePart p id) fun _ => .gone
  | startGameClock (expected : Option Version) :
    Performs interval id (.startClock .game) (.startGameClock id expected) fun row =>
      .shown (Showing.part .gameclock row)
  | startPlayClock (seconds : Int) (expected : Option Version) :
    Performs interval id (.startClock .play) (.startPlayClock id seconds expected) fun row =>
      .shown (Showing.part .playclock row)
  | pauseGameClock (expected : Option Version) :
    Performs interval id .pauseGameClock (.pauseGameClock id expected) fun row =>
      .shown (Showing.part .gameclock row)
  | resetGameClock (expected : Option Version) :
    Performs interval id .resetGameClock (.resetGameClock id expected) fun row =>
      .shown (Showing.part .gameclock row)
  | stopPlayClock (expected : Option Version) :
    Performs interval id .stopPlayClock (.stopPlayClock id expected) fun row =>
      .shown (Showing.part .playclock row)
  | getThrottle : Performs interval id .getThrottle (.getThrottle id) fun record =>
      .shown (Showing.throttle record)
  | touchThrottle (time : Option Instant) :
    Performs interval id .touchThrottle (.touchThrottle id time) fun record =>
      .shown (Showing.throttle record)
  | acquireThrottle :
    Performs interval id .acquireThrottle (.acquireThrottle interval id) fun decision =>
      .shown (Showing.decision decision)
  | clearThrottle : Performs interval id .clearThrottle (.clearThrottle id) fun _ => .gone

inductive Route.Performs (interval : Duration) : Route → (c : Command) → (c.Result → Reply) → Prop
  | create {creation : Creation} {c : Command} {reply : c.Result → Reply}
      (performs : creation.Performs c reply) : Performs interval (.create creation) c reply
  | item {a : ItemAction} {segment : String} {id : Int} {c : Command} {reply : c.Result → Reply}
      (read : Input.id segment = .ok id) (performs : a.Performs interval id c reply) :
    Performs interval (.item a segment) c reply

theorem Route.Performs.mutates {interval : Duration} {route : Route} {c : Command}
    {reply : c.Result → Reply} (h : route.Performs interval c reply) : c.mutates = route.mutates := by
  cases h with
  | create performs => cases performs <;> rfl
  | item read performs => cases performs <;> rfl

def Creation.asked (creation : Creation) (r : Request) : Except Refusal Command :=
  match creation with
  | fixture => do
    let m ← Input.message CreateFixture.record.codec r
    let draft ← Reading.fixtureDraft m
    pure (.createFixture draft)
  | part .scoreboard => do
    let m ← Input.message CreateScoreboard.record.codec r
    let draft ← Reading.scoreboardDraft m
    pure (.createScoreboard draft)
  | part .gameclock => do
    let m ← Input.message CreateGameClock.record.codec r
    let draft ← Reading.gameClockDraft m
    pure (.createGameClock draft)
  | part .playclock => do
    let m ← Input.message CreatePlayClock.record.codec r
    let draft ← Reading.playClockDraft m
    pure (.createPlayClock draft)

def ItemAction.asked (interval : Duration) (a : ItemAction) (id : Int) (r : Request) :
    Except Refusal Command :=
  match a with
  | getFixture => pure (.getFixture id)
  | updateFixture => do
    let m ← Input.message UpdateFixture.record.codec r
    let patch ← Reading.fixturePatch m
    pure (.updateFixture id patch)
  | deleteFixture => pure (.deleteFixture id)
  | getPart p => pure (.getPart p id)
  | getPartOf p => pure (.getPartByMatch p id)
  | updatePart .scoreboard => do
    let m ← Input.message UpdateScoreboard.record.codec r
    pure (.updateScoreboard id (Reading.scoreboardPatch m))
  | updatePart .gameclock => do
    let m ← Input.message UpdateGameClock.record.codec r
    let (patch, expected) ← Reading.gameClockPatch m
    pure (.updateGameClock id patch expected)
  | updatePart .playclock => do
    let m ← Input.message UpdatePlayClock.record.codec r
    let (patch, expected) ← Reading.playClockPatch m
    pure (.updatePlayClock id patch expected)
  | deletePart p => pure (.deletePart p id)
  | startClock .game => do
    let expected ← Reading.transition r
    pure (.startGameClock id expected)
  | startClock .play => do
    let m ← Input.message StartPlayClock.record.codec r
    let (seconds, expected) ← Reading.playClockStart m
    pure (.startPlayClock id seconds expected)
  | pauseGameClock => do
    let expected ← Reading.transition r
    pure (.pauseGameClock id expected)
  | resetGameClock => do
    let expected ← Reading.transition r
    pure (.resetGameClock id expected)
  | stopPlayClock => do
    let expected ← Reading.transition r
    pure (.stopPlayClock id expected)
  | getThrottle => pure (.getThrottle id)
  | touchThrottle => do
    let time ← Reading.notificationTime r
    pure (.touchThrottle id time)
  | acquireThrottle => pure (.acquireThrottle interval id)
  | clearThrottle => pure (.clearThrottle id)

/-- The command that a request for a route asks for, or why it is refused before anything is done. -/
def Route.asked (interval : Duration) (route : Route) (r : Request) : Except Refusal Command :=
  match route with
  | create creation => creation.asked r
  | item a segment => do
    let id ← Input.id segment
    a.asked interval id r

namespace Handler

/-- A handler that does what was asked for: it refuses, or it runs the command and replies with what
came of it. -/
inductive Obeys (performs : (c : Command) → (c.Result → Reply) → Prop) :
    Except Refusal Command → Handler Reply → Prop
  | refused (refusal : Refusal) : Obeys performs (.error refusal) (ofInput (.error refusal))
  | ran (c : Command) (reply : c.Result → Reply) (performed : performs c reply) :
    Obeys performs (.ok c) (do let x ← ofAction c.action; pure (reply x))

variable {α : Type} {performs performs' : (c : Command) → (c.Result → Reply) → Prop}
  {asked : Except Refusal Command} {h : Handler Reply}

theorem Obeys.runs (obeys : Obeys performs asked h) : Runs performs h := by
  cases obeys with
  | refused refusal => exact .refused refusal
  | ran c reply performed => exact .ran c reply performed

theorem Obeys.mono (obeys : Obeys performs asked h)
    (weaker : ∀ c reply, performs c reply → performs' c reply) : Obeys performs' asked h := by
  cases obeys with
  | refused refusal => exact .refused refusal
  | ran c reply performed => exact .ran c reply (weaker c reply performed)

theorem obeys_input {input : Except Refusal α} {ask : α → Except Refusal Command}
    {f : α → Handler Reply} (obeys : ∀ a, input = .ok a → Obeys performs (ask a) (f a)) :
    Obeys performs (input >>= ask) (ofInput input >>= f) := by
  cases input with
  | error refusal => exact .refused refusal
  | ok a => exact obeys a rfl

end Handler

open Handler

theorem obeys_creation (creation : Creation) (r : Request) :
    Obeys creation.Performs (creation.asked r) (creation.handle r) := by
  cases creation with
  | fixture =>
    refine obeys_input fun m _ => obeys_input fun draft _ => ?_
    exact .ran (.createFixture draft) _ (.fixture draft)
  | part p =>
    cases p with
    | scoreboard =>
      refine obeys_input fun m _ => obeys_input fun draft _ => ?_
      exact .ran (.createScoreboard draft) _ (.scoreboard draft)
    | gameclock =>
      refine obeys_input fun m _ => obeys_input fun draft _ => ?_
      exact .ran (.createGameClock draft) _ (.gameclock draft)
    | playclock =>
      refine obeys_input fun m _ => obeys_input fun draft _ => ?_
      exact .ran (.createPlayClock draft) _ (.playclock draft)

theorem obeys_updatePart (interval : Duration) (p : Part) (id : Int) (r : Request) :
    Obeys ((ItemAction.updatePart p).Performs interval id) ((ItemAction.updatePart p).asked interval id r)
      ((ItemAction.updatePart p).handle interval id r) := by
  cases p with
  | scoreboard =>
    simp only [ItemAction.handle, updatePart, bind_assoc]
    refine obeys_input fun m _ => ?_
    exact .ran (.updateScoreboard id (Reading.scoreboardPatch m)) _ (.updateScoreboard _)
  | gameclock =>
    simp only [ItemAction.handle, updatePart, bind_assoc]
    refine obeys_input fun m _ => obeys_input ?_
    rintro ⟨patch, expected⟩ -
    exact .ran (.updateGameClock id patch expected) _ (.updateGameClock patch expected)
  | playclock =>
    simp only [ItemAction.handle, updatePart, bind_assoc]
    refine obeys_input fun m _ => obeys_input ?_
    rintro ⟨patch, expected⟩ -
    exact .ran (.updatePlayClock id patch expected) _ (.updatePlayClock patch expected)

theorem obeys_item (interval : Duration) (a : ItemAction) (id : Int) (r : Request) :
    Obeys (a.Performs interval id) (a.asked interval id r) (a.handle interval id r) := by
  cases a with
  | getFixture => exact .ran (.getFixture id) _ .getFixture
  | updateFixture =>
    refine obeys_input fun m _ => obeys_input fun patch _ => ?_
    exact .ran (.updateFixture id patch) _ (.updateFixture patch)
  | deleteFixture => exact .ran (.deleteFixture id) _ .deleteFixture
  | getPart p => exact .ran (.getPart p id) _ (.getPart p)
  | getPartOf p => exact .ran (.getPartByMatch p id) _ (.getPartOf p)
  | updatePart p => exact obeys_updatePart interval p id r
  | deletePart p => exact .ran (.deletePart p id) _ (.deletePart p)
  | startClock k =>
    cases k with
    | game =>
      refine obeys_input fun expected _ => ?_
      exact .ran (.startGameClock id expected) _ (.startGameClock expected)
    | play =>
      refine obeys_input fun m _ => obeys_input ?_
      rintro ⟨seconds, expected⟩ -
      exact .ran (.startPlayClock id seconds expected) _ (.startPlayClock seconds expected)
  | pauseGameClock =>
    refine obeys_input fun expected _ => ?_
    exact .ran (.pauseGameClock id expected) _ (.pauseGameClock expected)
  | resetGameClock =>
    refine obeys_input fun expected _ => ?_
    exact .ran (.resetGameClock id expected) _ (.resetGameClock expected)
  | stopPlayClock =>
    refine obeys_input fun expected _ => ?_
    exact .ran (.stopPlayClock id expected) _ (.stopPlayClock expected)
  | getThrottle => exact .ran (.getThrottle id) _ .getThrottle
  | touchThrottle =>
    refine obeys_input fun time _ => ?_
    exact .ran (.touchThrottle id time) _ (.touchThrottle time)
  | acquireThrottle => exact .ran (.acquireThrottle interval id) _ .acquireThrottle
  | clearThrottle => exact .ran (.clearThrottle id) _ .clearThrottle

theorem obeys_route (interval : Duration) (route : Route) (r : Request) :
    Obeys (route.Performs interval) (route.asked interval r) (route.handle interval r) := by
  cases route with
  | create creation => exact (obeys_creation creation r).mono fun _ _ => .create
  | item a segment =>
    exact obeys_input fun id hid => (obeys_item interval a id r).mono fun _ _ => .item hid

theorem runs_route (interval : Duration) (route : Route) (r : Request) :
    Runs (route.Performs interval) (route.handle interval r) :=
  (obeys_route interval route r).runs

namespace Handler

theorem run_ran (c : Command) (reply : c.Result → Reply) (w : World Store) :
    Prog.run Store.storage (ExceptT.run (do let x ← ofAction c.action; pure (reply x))) w =
      (((c.action.run.run Store.storage w).1.mapError fun e => Refusal.failure e.failure).map reply,
        (c.action.run.run Store.storage w).2) := by
  change ((c.action.run.bind _).bind _).run Store.storage w = _
  rw [Prog.run_bind, Prog.run_bind]
  cases (c.action.run.run Store.storage w).1 <;> rfl

theorem Runs.sequential {t : Traffic} {w : World Store} {mutates : Bool} {h : Handler Reply}
    (runs : Runs (fun c _ => c.mutates = mutates) h) (sequential : t.Sequential w) :
    ∃ t' : Traffic, t'.Sequential (h.run.run Store.storage w).2 ∧
      (mutates = false ∨ (∃ refusal, (h.run.run Store.storage w).1 = .error refusal) →
        t'.announced = t.announced) := by
  cases runs with
  | refused refusal => exact ⟨t, sequential, fun _ => rfl⟩
  | ran c reply kind =>
    obtain ⟨t', past, hsequential, hended, hannounced⟩ := sequential.command c
    rw [run_ran]
    refine ⟨t', hsequential, ?_⟩
    intro hquiet
    rw [hannounced, hended.silent, List.nil_append]
    rcases hquiet with hmutates | ⟨refusal, hrefusal⟩
    · exact .inl (kind.trans hmutates)
    · right
      cases hresult : (c.action.run.run Store.storage w).1 with
      | error cause => exact ⟨cause, rfl⟩
      | ok value =>
        rw [hresult] at hrefusal
        cases hrefusal

end Handler

theorem isSuccess_reply (reply : Reply) : reply.response.isSuccess = true := by
  cases reply <;> rfl

theorem Route.serve_sequential {t : Traffic} {w : World Store} (sequential : t.Sequential w)
    (interval : Duration) (scope : Option TraceId) (route : Route) (r : Request) :
    ∃ t' : Traffic, t'.Sequential ((route.serve interval scope r).run Store.storage w).2 ∧
      (route.mutates = false ∨
        ((route.serve interval scope r).run Store.storage w).1.isSuccess = false →
          t'.announced = t.announced) := by
  have hruns : Runs (fun c _ => c.mutates = route.mutates) (route.handle interval r) :=
    (runs_route interval route r).mono fun _ _ performs => performs.mutates
  obtain ⟨t', hsequential, hquiet⟩ := hruns.sequential sequential
  rw [Route.serve, Prog.run_bind]
  refine ⟨t', hsequential, ?_⟩
  rintro (hmutates | hfailed)
  · exact hquiet (.inl hmutates)
  · refine hquiet (.inr ?_)
    cases hresult : ((route.handle interval r).run.run Store.storage w).1 with
    | error refusal => exact ⟨refusal, rfl⟩
    | ok reply =>
      rw [hresult] at hfailed
      change reply.response.isSuccess = false at hfailed
      rw [isSuccess_reply] at hfailed
      cases hfailed

end Matchday.Api
