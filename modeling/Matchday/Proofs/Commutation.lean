import Matchday.Proofs.Outcomes
import Matchday.Proofs.Separation
import Matchday.Proofs.Serving

set_option autoImplicit false

namespace Matchday

open Matchday.Api
open Matchday.Http
open Matchday.Service

section Actions

variable {α β ε : Type} {P : Int → Prop} {now : Instant} {s : Store}

theorem concerns_action_bind {a : ExceptT ε Prog α} {f : α → ExceptT ε Prog β} :
    (a >>= f).run.Concerns P now s ↔
      a.run.Concerns P now s ∧ ∀ x u, Yields now s a x u → (f x).run.Concerns P now u := by
  have hrun : (a >>= f).run = a.run.bind (ExceptT.bindCont f) := rfl
  rw [hrun, Prog.concerns_bind]
  refine and_congr_right fun _ => ?_
  simp only [Yields]
  cases hvalue : (a.run.exec now s).value with
  | error e =>
    refine iff_of_true trivial ?_
    rintro x u ⟨hx, -⟩
    cases hx
  | ok x =>
    constructor
    · rintro h y u ⟨hy, rfl⟩
      cases hy
      exact h
    · intro h
      exact h x _ ⟨rfl, rfl⟩

theorem concerns_ask {f : ε → Cause} {p : Prog (Except ε α)} :
    (Action.ask f p).run.Concerns P now s ↔ p.Concerns P now s := by
  refine Prog.concerns_bind.trans ?_
  exact and_iff_left trivial

theorem concerns_announced {change : RowChange} {x : α} :
    (do Action.announce change; pure x : Action α).run.Concerns P now s := trivial

theorem concerns_announceAll (changes : List RowChange) :
    (announceAll changes).run.Concerns P now s := by
  induction changes with
  | nil => trivial
  | cons change rest ih =>
    rw [announceAll, concerns_action_bind]
    refine ⟨trivial, ?_⟩
    intro u t hyields
    obtain rfl := yields_announce.mp hyields
    exact ih

theorem concerns_required {cause : Cause} {found : Option α} {f : α → Action β}
    (h : ∀ x, found = some x → (f x).run.Concerns P now s) :
    (do let x ← Action.require cause found; f x : Action β).run.Concerns P now s := by
  cases found with
  | none => trivial
  | some x => exact h x rfl

end Actions

namespace Service

variable {P : Int → Prop} {now : Instant} {s : Store}

theorem concerns_getFixture {id : Int} (h : P id) : (getFixture id).run.Concerns P now s := by
  rw [getFixture, concerns_action_bind]
  refine ⟨concerns_ask.mpr ⟨h, trivial⟩, ?_⟩
  rintro (_ | row) u - <;> trivial

theorem concerns_updateFixture {id : Int} {patch : FixturePatch} (hs : s.Integrity) (h : P id) :
    (updateFixture id patch).run.Concerns P now s := by
  rw [updateFixture, concerns_action_bind]
  refine ⟨concerns_getFixture h, ?_⟩
  intro current u hread
  obtain ⟨hcurrent, rfl⟩ := yields_getFixture.mp hread
  rw [concerns_action_bind]
  refine ⟨trivial, ?_⟩
  intro next u hmade
  obtain ⟨hnext, rfl⟩ := yields_ofExcept.mp hmade
  have hid : next.id = id := (withPatch_fixture hnext).1.trans (hs.fixtures.own id current hcurrent)
  rw [concerns_action_bind]
  have hrow : P next.id := hid.symm ▸ h
  refine ⟨concerns_ask.mpr ⟨hrow, trivial⟩, ?_⟩
  rintro written u -
  exact concerns_required fun saved _ => concerns_announced

theorem concerns_deleteFixture {id : Int} (h : P id) : (deleteFixture id).run.Concerns P now s := by
  rw [deleteFixture, concerns_action_bind]
  refine ⟨concerns_ask.mpr ⟨h, trivial⟩, ?_⟩
  rintro removed u -
  refine concerns_required fun removal _ => ?_
  rw [concerns_action_bind]
  exact ⟨concerns_announceAll _, fun _ _ _ => trivial⟩

theorem concerns_getPart {p : Part} {id : Int} (h : ∀ row, s.findPart p id = some row → P (p.ownerId row)) :
    (getPart p id).run.Concerns P now s := by
  rw [getPart, concerns_action_bind]
  refine ⟨concerns_ask.mpr ⟨h, trivial⟩, ?_⟩
  rintro (_ | row) u - <;> trivial

theorem concerns_getPartByMatch {p : Part} {m : Int} (h : P m) :
    (getPartByMatch p m).run.Concerns P now s := by
  rw [getPartByMatch, concerns_action_bind]
  refine ⟨concerns_ask.mpr ⟨h, trivial⟩, ?_⟩
  rintro (_ | row) u - <;> trivial

theorem concerns_deletePart {p : Part} {id : Int}
    (h : ∀ row, s.findPart p id = some row → P (p.ownerId row)) :
    (deletePart p id).run.Concerns P now s := by
  rw [deletePart, concerns_action_bind]
  refine ⟨concerns_ask.mpr ⟨h, trivial⟩, ?_⟩
  rintro removed u -
  exact concerns_required fun row _ => concerns_announced

theorem owned_of_read {p : Part} {id : Int} {current next : p.Row} (hs : s.Integrity)
    (h : ∀ row, s.findPart p id = some row → P (p.ownerId row)) (read : s.findPart p id = some current)
    (same : p.rowId next = p.rowId current) (owner : p.ownerId next = p.ownerId current) :
    s.Owned P p next := by
  intro old hold
  rw [same, (hs.parts p).own id current read, read] at hold
  cases hold
  exact ⟨h current read, owner⟩

theorem concerns_updateScoreboard {id : Int} {patch : ScoreboardPatch} (hs : s.Integrity)
    (h : ∀ row, s.findPart .scoreboard id = some row → P (Part.ownerId .scoreboard row)) :
    (updateScoreboard id patch).run.Concerns P now s := by
  rw [updateScoreboard, concerns_action_bind]
  refine ⟨concerns_getPart h, ?_⟩
  intro current u hread
  obtain ⟨hcurrent, rfl⟩ := yields_getPart.mp hread
  rw [concerns_action_bind]
  refine ⟨trivial, ?_⟩
  intro next u hmade
  obtain ⟨hnext, rfl⟩ := yields_ofExcept.mp hmade
  obtain ⟨hid, howner⟩ := withPatch_scoreboard hnext
  rw [concerns_action_bind]
  refine ⟨concerns_ask.mpr ⟨owned_of_read hs h hcurrent hid howner, trivial⟩, ?_⟩
  rintro written u -
  exact concerns_required fun saved _ => concerns_announced

theorem concerns_transition {k : ClockKind} {id : Int} {expected : Option Version}
    {step : k.Row → Except ClockError k.Row}
    (advances : ∀ row next, step row = .ok next → Advances k row next) (hs : s.Integrity)
    (h : ∀ row, s.findPart k.part id = some row → P (k.part.ownerId row)) :
    (transition k id expected step).run.Concerns P now s := by
  rw [transition, concerns_action_bind]
  refine ⟨concerns_getPart h, ?_⟩
  intro current u hread
  obtain ⟨hcurrent, rfl⟩ := yields_getPart.mp hread
  have hchecks : (checkVersion k id expected (k.version current)).run.Concerns P now s := by
    unfold checkVersion
    split
    · split_ifs <;> trivial
    · trivial
  rw [concerns_action_bind]
  refine ⟨hchecks, ?_⟩
  intro agreed u hagreed
  obtain rfl := yields_checkVersion hagreed
  rw [concerns_action_bind]
  refine ⟨trivial, ?_⟩
  intro next u hmade
  obtain ⟨hnext, rfl⟩ := yields_ofExcept.mp hmade
  obtain ⟨hid, howner, -⟩ := advances current next hnext
  rw [concerns_action_bind]
  refine ⟨concerns_ask.mpr ⟨owned_of_read hs h hcurrent hid howner, trivial⟩, ?_⟩
  rintro saved u -
  exact concerns_announced

theorem concerns_timed {α : Type} {f : Int → Action α}
    (h : ∀ time, (f time).run.Concerns P now s) :
    (do let time ← timeMs; f time : Action α).run.Concerns P now s := by
  rw [concerns_action_bind]
  refine ⟨trivial, ?_⟩
  intro time u hread
  have hstore : s = u := hread.2
  exact hstore ▸ h time

theorem concerns_getThrottle {m : Int} (h : P m) : (getThrottle m).run.Concerns P now s := by
  rw [getThrottle, concerns_action_bind]
  refine ⟨concerns_ask.mpr ⟨h, trivial⟩, ?_⟩
  rintro (_ | record) u - <;> trivial

theorem concerns_touchThrottle {m : Int} {time : Option Instant} (h : P m) :
    (touchThrottle m time).run.Concerns P now s :=
  concerns_ask.mpr ⟨h, trivial⟩

theorem concerns_acquireThrottle {interval : Duration} {m : Int} (h : P m) :
    (acquireThrottle interval m).run.Concerns P now s := by
  rw [acquireThrottle, concerns_action_bind]
  refine ⟨trivial, ?_⟩
  intro time u htime
  obtain ⟨-, rfl⟩ := yields_time.mp htime
  rw [concerns_action_bind]
  refine ⟨concerns_ask.mpr ⟨h, trivial⟩, ?_⟩
  rintro found u -
  cases pendingWait interval time found with
  | some wait => trivial
  | none => exact concerns_action_bind.mpr ⟨concerns_touchThrottle h, fun _ _ _ => trivial⟩

theorem concerns_clearThrottle {m : Int} (h : P m) : (clearThrottle m).run.Concerns P now s := by
  rw [clearThrottle, concerns_action_bind]
  refine ⟨concerns_ask.mpr ⟨h, trivial⟩, ?_⟩
  rintro (_ | _) u - <;> trivial

end Service

namespace Api

def owner? (s : Store) (p : Part) (id : Int) : Option Int := (s.findPart p id).map p.ownerId

/-- The match that an endpoint is about: the one whose id is in the path, or the one that owns the row
whose id is in the path. -/
def ItemAction.concern (s : Store) (id : Int) : ItemAction → Option Int
  | getFixture | updateFixture | deleteFixture | getPartOf _ => some id
  | getThrottle | touchThrottle | acquireThrottle | clearThrottle => some id
  | getPart p | updatePart p | deletePart p => owner? s p id
  | startClock k => owner? s k.part id
  | pauseGameClock | resetGameClock => owner? s .gameclock id
  | stopPlayClock => owner? s .playclock id

def concern (s : Store) (r : Request) : Option Int :=
  (target? r).bind fun (a, id) => a.concern s id

variable {P : Int → Prop} {now : Instant} {s : Store}

theorem owned_of_concern {p : Part} {id : Int} (h : ∀ m, owner? s p id = some m → P m) :
    ∀ row, s.findPart p id = some row → P (p.ownerId row) := by
  intro row hrow
  exact h _ (by rw [owner?, hrow, Option.map_some])

theorem ItemAction.Performs.concerns {interval : Duration} {id : Int} {a : ItemAction} {c : Command}
    {reply : c.Result → Reply} (performs : a.Performs interval id c reply) (hs : s.Integrity)
    (h : ∀ m, a.concern s id = some m → P m) : c.action.run.Concerns P now s := by
  cases performs with
  | getFixture => exact concerns_getFixture (h id rfl)
  | updateFixture patch => exact concerns_updateFixture hs (h id rfl)
  | deleteFixture => exact concerns_deleteFixture (h id rfl)
  | getPart p => exact concerns_getPart (owned_of_concern h)
  | getPartOf p => exact concerns_getPartByMatch (h id rfl)
  | updateScoreboard patch => exact concerns_updateScoreboard hs (owned_of_concern h)
  | updateGameClock patch expected =>
    exact concerns_timed fun time =>
      concerns_transition (fun _ _ => advances_gamePatch) hs (owned_of_concern h)
  | updatePlayClock patch expected =>
    exact concerns_transition (fun _ _ => advances_playPatch) hs (owned_of_concern h)
  | deletePart p => exact concerns_deletePart (owned_of_concern h)
  | startGameClock expected =>
    exact concerns_timed fun time =>
      concerns_transition (fun _ _ => advances_gameStart) hs (owned_of_concern h)
  | startPlayClock seconds expected =>
    exact concerns_transition (fun _ _ => advances_playStart) hs (owned_of_concern h)
  | pauseGameClock expected =>
    exact concerns_timed fun time =>
      concerns_transition (fun _ _ => advances_gamePause) hs (owned_of_concern h)
  | resetGameClock expected =>
    exact concerns_transition (fun _ _ => advances_gameReset) hs (owned_of_concern h)
  | stopPlayClock expected =>
    exact concerns_transition (fun _ _ => advances_playStop) hs (owned_of_concern h)
  | getThrottle => exact concerns_getThrottle (h id rfl)
  | touchThrottle time => exact concerns_touchThrottle (h id rfl)
  | acquireThrottle => exact concerns_acquireThrottle (h id rfl)
  | clearThrottle => exact concerns_clearThrottle (h id rfl)

theorem Handler.Runs.concerns {performs : (c : Command) → (c.Result → Reply) → Prop}
    {handler : Handler Reply} (runs : Runs performs handler)
    (h : ∀ c reply, performs c reply → c.action.run.Concerns P now s) :
    handler.run.Concerns P now s := by
  cases runs with
  | refused refusal => trivial
  | ran c reply performed =>
    rw [concerns_action_bind]
    exact ⟨Prog.concerns_bind.mpr ⟨h c reply performed, trivial⟩, fun _ _ _ => trivial⟩

theorem concerns_serve {interval : Duration} {scope : Option TraceId} {r : Request} {route : Route}
    (found : Route.find? r.method r.segments = some route) (plain : ∀ c, route ≠ .create c)
    (hs : s.Integrity) (h : ∀ m, concern s r = some m → P m) :
    (route.serve interval scope r).Concerns P now s := by
  refine Prog.concerns_bind.mpr ⟨(runs_route interval route r).concerns ?_, trivial⟩
  intro c reply performs
  cases performs with
  | create performs => exact absurd rfl (plain _)
  | @item a segment id c reply read performs =>
    refine performs.concerns hs fun m hm => h m ?_
    rw [concern, target?_eq_some.mpr ⟨segment, found, read⟩]
    exact hm

end Api

namespace Application

variable {app : Application Store}

theorem orderly_after (clock : Instant) (interval : Duration) (capacity : Nat) (moves : List Move) :
    ((start Store.storage .empty clock interval capacity).after moves).world.store.Orderly := by
  refine ⟨integrity_after clock interval capacity moves, ?_⟩
  exact store_invariant (I := fun s => s.throttle.Ordered) (fun _ _ _ => Store.ordered_throttle) rfl
    Table.ordered_empty moves

def program (app : Application Store) (scope : Option TraceId) (r : Request) : Prog Response :=
  match Route.find? r.method r.segments with
  | some route => route.serve app.interval scope r
  | none =>
    .done
      (if isSubscription r then subscriptionResponse scope r
      else (app.health.respond? r.method r.segments).getD .notFound)

theorem serve_eq_run (app : Application Store) (scope : Option TraceId) (r : Request) :
    app.serve scope r = app.run (app.program scope r) := by
  rw [serve, program]
  cases Route.find? r.method r.segments with
  | some route => rfl
  | none =>
    dsimp only
    split_ifs <;> rfl

theorem concerns_program {scope : Option TraceId} {r : Request} {P : Int → Prop} {now : Instant}
    {s : Store} (plain : ∀ c, Route.find? r.method r.segments ≠ some (.create c)) (hs : s.Integrity)
    (h : ∀ m, concern s r = some m → P m) : (app.program scope r).Concerns P now s := by
  rw [program]
  cases hfound : Route.find? r.method r.segments with
  | none => trivial
  | some route => exact concerns_serve hfound (fun c hc => plain c (hc ▸ hfound)) hs h

theorem exists_ne_of_apart {x y : Option Int} (apart : ∀ m, x = some m → y ≠ some m) :
    ∃ m n : Int, m ≠ n ∧ (∀ k, x = some k → k = m) ∧ ∀ k, y = some k → k = n := by
  rcases x with _ | m <;> rcases y with _ | n
  · exact ⟨0, 1, by decide, nofun, nofun⟩
  · exact ⟨n + 1, n, by omega, nofun, fun k hk => (Option.some.inj hk).symm⟩
  · exact ⟨m, m + 1, by omega, fun k hk => (Option.some.inj hk).symm, nofun⟩
  · refine ⟨m, n, ?_, fun k hk => (Option.some.inj hk).symm, fun k hk => (Option.some.inj hk).symm⟩
    rintro rfl
    exact apart m rfl rfl

theorem run_run {α β : Type} (memory : app.storage = Store.storage) (p : Prog α) (q : Prog β) :
    ((app.run p).2.run q).1 =
        (q.exec app.world.clock (p.exec app.world.clock app.world.store).store).value ∧
      ((app.run p).2.run q).2.world.store =
        (q.exec app.world.clock (p.exec app.world.clock app.world.store).store).store ∧
      ((app.run p).2.run q).2.publishedSince (app.run p).2.world.published.length =
        (q.exec app.world.clock (p.exec app.world.clock app.world.store).store).told.filterMap
          app.world.feed.announce := by
  have hmemory : (app.run p).2.storage = Store.storage := memory
  rw [value_run hmemory, store_run hmemory, publishedSince_run hmemory, clock_run memory,
    store_run memory, feed_run memory]
  exact ⟨rfl, rfl, rfl⟩

/-- Whichever of two requests about different matches comes first, each has the same response and publishes
the same events, and the store ends up the same. A request about a row that is not there concerns no
match. -/
theorem requests_commute (clock : Instant) (interval : Duration) (capacity : Nat) (moves : List Move)
    (scope₁ scope₂ : Option TraceId) (r₁ r₂ : Request)
    (plain₁ : ∀ c, Route.find? r₁.method r₁.segments ≠ some (.create c))
    (plain₂ : ∀ c, Route.find? r₂.method r₂.segments ≠ some (.create c)) :
    let app := (start Store.storage .empty clock interval capacity).after moves
    (∀ m, concern app.world.store r₁ = some m → concern app.world.store r₂ ≠ some m) →
    let first := app.serve scope₁ r₁
    let second := app.serve scope₂ r₂
    let secondAfterFirst := first.2.serve scope₂ r₂
    let firstAfterSecond := second.2.serve scope₁ r₁
    secondAfterFirst.1 = second.1 ∧ firstAfterSecond.1 = first.1 ∧
    secondAfterFirst.2.world.store = firstAfterSecond.2.world.store ∧
    secondAfterFirst.2.publishedSince first.2.world.published.length =
      second.2.publishedSince app.world.published.length ∧
    firstAfterSecond.2.publishedSince second.2.world.published.length =
      first.2.publishedSince app.world.published.length := by
  intro app apart first second secondAfterFirst firstAfterSecond
  have hmemory : app.storage = Store.storage := storage_after moves
  have horderly : app.world.store.Orderly := orderly_after clock interval capacity moves
  obtain ⟨m, n, hne, hm, hn⟩ := exists_ne_of_apart apart
  have hfirst : first = app.run (app.program scope₁ r₁) := serve_eq_run app scope₁ r₁
  have hsecond : second = app.run (app.program scope₂ r₂) := serve_eq_run app scope₂ r₂
  have hsecondAfterFirst : secondAfterFirst = first.2.run (app.program scope₂ r₂) := by
    rw [hfirst]
    exact (congrArg (·.2.serve scope₂ r₂) hfirst).trans (serve_eq_run _ scope₂ r₂)
  have hfirstAfterSecond : firstAfterSecond = second.2.run (app.program scope₁ r₁) := by
    rw [hsecond]
    exact (congrArg (·.2.serve scope₁ r₁) hsecond).trans (serve_eq_run _ scope₁ r₁)
  obtain ⟨hvalue, htold, hvalue', htold', hstore⟩ := Prog.exec_comm hne horderly
    (concerns_program plain₁ horderly.integrity hm) (concerns_program plain₂ horderly.integrity hn)
  rw [hsecondAfterFirst, hfirstAfterSecond, hfirst, hsecond]
  obtain ⟨hresponse, hrows, hevents⟩ :=
    run_run hmemory (app.program scope₁ r₁) (app.program scope₂ r₂)
  obtain ⟨hresponse', hrows', hevents'⟩ :=
    run_run hmemory (app.program scope₂ r₂) (app.program scope₁ r₁)
  rw [hresponse, hresponse', hrows, hrows', hevents, hevents', publishedSince_run hmemory,
    publishedSince_run hmemory, value_run hmemory, value_run hmemory, hvalue, hvalue', htold, htold']
  exact ⟨rfl, rfl, hstore, rfl, rfl⟩

theorem requests_commute_of_deletions :
    let moves : List Move :=
      [.call (.createScoreboard (.kickoff 2)), .call (.createScoreboard (.kickoff 1)),
        .call (.createFixture ⟨1, 1, 2, "second", 0, none⟩),
        .call (.createFixture ⟨1, 1, 2, "first", 0, none⟩)]
    let app := (start Store.storage .empty .epoch 1000000000 256).after moves
    let r₁ : Request := ⟨.delete, "/api/v1/matches/1", [], []⟩
    let r₂ : Request := ⟨.delete, "/api/v1/scoreboards/2", [], []⟩
    concern app.world.store r₁ = some 1 ∧ concern app.world.store r₂ = some 2 ∧
      ((app.serve none r₁).2.serve none r₂).1 = (app.serve none r₂).1 ∧
      ((app.serve none r₂).2.serve none r₁).1 = (app.serve none r₁).1 ∧
      ((app.serve none r₁).2.serve none r₂).2.world.store =
        ((app.serve none r₂).2.serve none r₁).2.world.store := by
  intro moves app r₁ r₂
  have hfound₁ : Route.find? r₁.method r₁.segments = some (.item .deleteFixture "1") := by
    decide +kernel
  have hfound₂ : Route.find? r₂.method r₂.segments = some (.item (.deletePart .scoreboard) "2") := by
    decide +kernel
  have hread₁ : Text.integer? .i32 (Text.Percent.decodeText "1") = some 1 := by decide +kernel
  have hread₂ : Text.integer? .i32 (Text.Percent.decodeText "2") = some 2 := by decide +kernel
  have hconcern₁ : concern app.world.store r₁ = some 1 := by
    rw [concern, target?_eq_some.mpr ⟨"1", hfound₁, by rw [Input.id, hread₁]⟩]
    rfl
  have howner : owner? app.world.store .scoreboard 2 = some 2 := by decide +kernel
  have hconcern₂ : concern app.world.store r₂ = some 2 := by
    rw [concern, target?_eq_some.mpr ⟨"2", hfound₂, by rw [Input.id, hread₂]⟩]
    exact howner
  have hplain₁ (c : Creation) : Route.find? r₁.method r₁.segments ≠ some (.create c) := by
    rw [hfound₁]
    rintro ⟨⟩
  have hplain₂ (c : Creation) : Route.find? r₂.method r₂.segments ≠ some (.create c) := by
    rw [hfound₂]
    rintro ⟨⟩
  have happart (m : Int) (hm : concern app.world.store r₁ = some m) :
      concern app.world.store r₂ ≠ some m := by
    rw [hconcern₁] at hm
    cases hm
    rw [hconcern₂]
    decide
  obtain ⟨hsecond, hfirst, hstore, -, -⟩ :=
    requests_commute .epoch 1000000000 256 moves none none r₁ r₂ hplain₁ hplain₂ happart
  exact ⟨hconcern₁, hconcern₂, hsecond, hfirst, hstore⟩

end Application

end Matchday
