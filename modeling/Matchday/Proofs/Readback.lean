import Matchday.Proofs.News
import Matchday.Proofs.Refusals

set_option autoImplicit false

namespace Matchday

open Matchday.Api
open Matchday.Http
open Matchday.Service
open Matchday.Text

/-- What the latest news of a row shows; none before the row is created and once it has gone, on its
own or with its match. -/
def lastShown (t : WatchedTable) (id : Int) : List News → Option Json
  | .created u body :: earlier | .changed u body :: earlier =>
    if u = t ∧ body.number? "id" = some id then some body else lastShown t id earlier
  | .deleted u j :: earlier =>
    if u = t ∧ j = id then none
    else (lastShown t id earlier).filter fun body => !(u = .fixture ∧ body.number? "matchId" = some j)
  | _ :: earlier => lastShown t id earlier
  | [] => none

/-- The row of a part that was created last for a match, if neither of them has gone since. -/
def madeFor (p : Part) (m : Int) : List News → Option Int
  | .created u body :: earlier =>
    if u = p.table ∧ body.number? "matchId" = some m then body.number? "id" else madeFor p m earlier
  | .deleted u j :: earlier =>
    if u = .fixture ∧ j = m then none
    else (madeFor p m earlier).filter fun id => !(u = p.table ∧ j = id)
  | _ :: earlier => madeFor p m earlier
  | [] => none

/-- The time of the latest notification for a match that has not been forgotten since, as it is shown. -/
def lastNotified (m : Int) : List News → Option Json
  | .notified k body :: earlier =>
    if k = m then body.get? "lastNotifiedAt" else lastNotified m earlier
  | .cleared k :: earlier => if k = m then none else lastNotified m earlier
  | _ :: earlier => lastNotified m earlier
  | [] => none

namespace Store

def shown (s : Store) : WatchedTable → Int → Option Json
  | .fixture, id => (s.fixtures.rows.get? id).map Showing.fixture
  | .scoreboard, id => (s.findPart .scoreboard id).map (Showing.part .scoreboard)
  | .gameclock, id => (s.findPart .gameclock id).map (Showing.part .gameclock)
  | .playclock, id => (s.findPart .playclock id).map (Showing.part .playclock)

theorem shown_part (s : Store) (p : Part) (id : Int) :
    s.shown p.table id = (s.findPart p id).map (Showing.part p) := by
  cases p <;> rfl

theorem shown_insertFixture (s : Store) (last : Int) (row : Fixture) (u : WatchedTable) (j : Int) :
    shown { s with fixtures := ⟨s.fixtures.rows.insert row.id row, last⟩ } u j =
      if u = .fixture ∧ j = row.id then some (Showing.fixture row) else s.shown u j := by
  cases u with
  | fixture =>
    simp only [shown, Table.get?_insert, true_and]
    split_ifs <;> rfl
  | scoreboard | gameclock | playclock => rfl

theorem shown_setPart (s : Store) (p : Part) (t : Numbered p.Row) (u : WatchedTable) (j : Int) :
    (s.setPart p t).shown u j =
      if u = p.table then (t.rows.get? j).map (Showing.part p) else s.shown u j := by
  rcases u.fixture_or_part with rfl | ⟨q, rfl⟩
  · rw [if_neg (Ne.symm p.table_ne_fixture)]
    simp only [shown, fixtures_setPart]
  · by_cases hq : q = p
    · subst hq
      rw [if_pos rfl, shown_part, findPart, part_setPart_self]
    · rw [if_neg fun h => hq (Part.table_injective h), shown_part, shown_part, findPart, findPart,
        part_setPart_of_ne s t hq]

theorem shown_setPart_insert (s : Store) (p : Part) (last : Int) (row : p.Row) (u : WatchedTable)
    (j : Int) :
    (s.setPart p ⟨(s.part p).rows.insert (p.rowId row) row, last⟩).shown u j =
      if u = p.table ∧ j = p.rowId row then some (Showing.part p row) else s.shown u j := by
  rw [shown_setPart, Table.get?_insert]
  by_cases hu : u = p.table
  · subst hu
    by_cases hj : j = p.rowId row <;> simp [hj, shown_part, findPart]
  · simp [hu]

theorem shown_setPart_erase (s : Store) (p : Part) (id last : Int) (u : WatchedTable) (j : Int) :
    (s.setPart p ⟨(s.part p).rows.erase id, last⟩).shown u j =
      if u = p.table ∧ j = id then none else s.shown u j := by
  rw [shown_setPart, Table.get?_erase]
  by_cases hu : u = p.table
  · subst hu
    by_cases hj : j = id <;> simp [hj, shown_part, findPart]
  · simp [hu]

theorem shown_withoutFixture {s : Store} (hs : s.Integrity) (id : Int) (u : WatchedTable) (j : Int) :
    (s.withoutFixture id).shown u j =
      if u = .fixture ∧ j = id then none
      else (s.shown u j).filter fun body => !(body.number? "matchId" = some id) := by
  rcases u.fixture_or_part with rfl | ⟨p, rfl⟩
  · simp only [shown, fixtures_withoutFixture, Table.get?_erase, true_and]
    split_ifs
    · rfl
    · cases s.fixtures.rows.get? j <;> rfl
  · rw [shown_part, shown_part, findPart_withoutFixture (hs.parts p).ordered,
      if_neg fun h => p.table_ne_fixture h.1]
    cases s.findPart p j with
    | none => rfl
    | some row => by_cases hrow : p.ownerId row = id <;> simp [Option.filter, number?_part_matchId, hrow]

/-- The news tells the store: how its rows look, which row each match has, and when its callers were
notified last. -/
structure Told (s : Store) (log : List News) : Prop where
  shown : ∀ t id, lastShown t id log = s.shown t id
  made : ∀ p m id, madeFor p m log = some id ↔ s.live p.table id = some (some m)
  notified : ∀ m, lastNotified m log =
    (s.throttle.get? m).map fun record => .str (Rfc3339.render record.lastNotifiedAt)
  own : ∀ m record, s.throttle.get? m = some record → record.matchId = m

theorem told_empty : empty.Told [] := by
  refine ⟨?_, ?_, fun m => rfl, nofun⟩
  · intro t id
    cases t <;> rfl
  · intro p m id
    rw [live_empty]
    simp [madeFor, LiveRows.empty]

variable {s s' : Store} {news : News} {log : List News}

theorem filter_true {α : Type} (o : Option α) : (o.filter fun _ => true) = o := by
  cases o <;> rfl

theorem Reports.shown (h : s.Reports news s') (hs : s.Integrity)
    (told : ∀ t id, lastShown t id log = s.shown t id) (t : WatchedTable) (id : Int) :
    lastShown t id (news :: log) = s'.shown t id := by
  cases h with
  | nothing | notified own | acquired own | cleared m => exact told t id
  | fixtureCreated row | fixtureChanged row =>
    have hid : (Showing.fixture row).number? "id" = some row.id := rfl
    rw [shown_insertFixture]
    simp only [lastShown, hid, told, Option.some.injEq, eq_comm]
  | @partCreated p row free next =>
    rw [shown_setPart_insert]
    simp only [lastShown, number?_part_id, told, Option.some.injEq, eq_comm]
  | @partChanged p row old found owner =>
    rw [putPart, shown_setPart_insert]
    simp only [lastShown, number?_part_id, told, Option.some.injEq, eq_comm]
  | fixtureDeleted j =>
    rw [shown_withoutFixture hs]
    simp only [lastShown, told, eq_comm, true_and]
  | partDeleted p j =>
    rw [shown_setPart_erase]
    simp only [lastShown, told, p.table_ne_fixture, false_and, decide_false, Bool.not_false,
      filter_true, eq_comm]

theorem Reports.made (h : s.Reports news s') (hs : s.Integrity)
    (told : ∀ p m id, madeFor p m log = some id ↔ s.live p.table id = some (some m)) (p : Part)
    (m id : Int) : madeFor p m (news :: log) = some id ↔ s'.live p.table id = some (some m) := by
  have hsame (hlive : s'.live = s.live) (hmade : madeFor p m (news :: log) = madeFor p m log) :
      madeFor p m (news :: log) = some id ↔ s'.live p.table id = some (some m) := by
    rw [hlive, hmade]
    exact told p m id
  cases h with
  | nothing => exact hsame rfl rfl
  | notified own | acquired own => exact hsame (live_congr rfl fun q => by cases q <;> rfl) rfl
  | cleared k => exact hsame (live_congr rfl fun q => by cases q <;> rfl) rfl
  | fixtureCreated row | fixtureChanged row =>
    rw [live_insertFixture, LiveRows.set_of_ne _ _ fun h => p.table_ne_fixture h.1, ← told p m id]
    simp only [madeFor, p.table_ne_fixture.symm, false_and, if_false]
  | fixtureDeleted j =>
    have hlive := live_withoutFixture (fun q => (hs.parts q).ordered) j p.table id
    simp only [p.table_ne_fixture, false_and, false_or] at hlive
    rw [hlive]
    simp only [madeFor, p.table_ne_fixture.symm, false_and, decide_false, Bool.not_false, filter_true,
      true_and]
    split_ifs with hj hgone hgone
    · simp
    · subst hj
      simp [hgone]
    · have hother : s.live p.table id ≠ some (some m) := by
        rw [hgone]
        exact fun he => hj (Option.some.inj (Option.some.inj he))
      simp [told, hother]
    · exact told p m id
  | @partCreated q row free next =>
    rw [live_setPart_insert, LiveRows.set]
    simp only [madeFor, number?_part_matchId, number?_part_id, Option.some.injEq]
    have hfresh := part_eq_none_of_next hs next
    have hfree := findPartByMatch_eq_none free
    by_cases hq : q = p
    · subst hq
      by_cases hid : id = q.rowId row
      · subst hid
        by_cases hm : q.ownerId row = m <;> simp [hm, told, hfresh]
      · by_cases hm : q.ownerId row = m
        · subst hm
          simp [hid, Ne.symm hid, hfree]
        · simp [hid, hm, told]
    · have hne : q.table ≠ p.table := fun he => hq (Part.table_injective he)
      simp [hne, hne.symm, told]
  | @partChanged q row old found owner =>
    refine hsame ?_ ?_
    · rw [putPart, live_setPart_insert]
      refine LiveRows.set_eq_self ?_
      exact live_part_eq_some.mpr ⟨old, found, by rw [owner]⟩
    · rfl
  | partDeleted q j =>
    rw [live_setPart_erase, LiveRows.set]
    simp only [madeFor, q.table_ne_fixture, false_and, if_false, Option.filter_eq_some_iff, told]
    by_cases hgone : p.table = q.table ∧ id = j
    · simp [hgone.1, hgone.2]
    · simp only [eq_comm, hgone, decide_false, Bool.not_false, and_true, if_false]

theorem Reports.lastNotified (h : s.Reports news s')
    (told : ∀ m, lastNotified m log =
      (s.throttle.get? m).map fun record => .str (Rfc3339.render record.lastNotifiedAt)) (m : Int) :
    lastNotified m (news :: log) =
      (s'.throttle.get? m).map fun record => .str (Rfc3339.render record.lastNotifiedAt) := by
  cases h with
  | nothing | fixtureCreated row | fixtureChanged row | fixtureDeleted j => exact told m
  | partCreated free next =>
    rw [throttle_setPart]
    exact told m
  | partChanged found owner =>
    rw [putPart, throttle_setPart]
    exact told m
  | partDeleted p j =>
    rw [throttle_setPart]
    exact told m
  | notified own | acquired own =>
    simp only [Matchday.lastNotified, told, Table.get?_insert, eq_comm]
    split_ifs <;> rfl
  | cleared k =>
    simp only [Matchday.lastNotified, told, Table.get?_erase, eq_comm]
    split_ifs <;> rfl

theorem Reports.own (h : s.Reports news s')
    (own : ∀ m record, s.throttle.get? m = some record → record.matchId = m) (m : Int)
    (record : ThrottleRecord) (found : s'.throttle.get? m = some record) : record.matchId = m := by
  cases h with
  | nothing | fixtureCreated row | fixtureChanged row | fixtureDeleted j => exact own m record found
  | partCreated free next =>
    rw [throttle_setPart] at found
    exact own m record found
  | partChanged found' owner =>
    rw [putPart, throttle_setPart] at found
    exact own m record found
  | partDeleted p j =>
    rw [throttle_setPart] at found
    exact own m record found
  | notified hown | acquired hown =>
    rw [Table.get?_insert] at found
    split_ifs at found with hm
    · cases found
      exact hown.trans hm.symm
    · exact own m record found
  | cleared k =>
    rw [Table.get?_erase] at found
    split_ifs at found
    exact own m record found

theorem Told.reports (told : s.Told log) (h : s.Reports news s') (hs : s.Integrity) :
    s'.Told (news :: log) :=
  ⟨h.shown hs told.shown, h.made hs told.made, h.lastNotified told.notified, h.own told.own⟩

end Store

namespace Application

def Move.exchange? (app : Application Store) : Move → Option Exchange
  | .request scope r => some ⟨r, (app.serve scope r).1⟩
  | .connect name scope r => some ⟨r, (app.connect name scope r).1⟩
  | _ => none

def exchanges (app : Application Store) : List Move → List Exchange
  | [] => []
  | move :: earlier => (move.exchange? (app.after earlier)).toList ++ exchanges app earlier

def news (app : Application Store) (moves : List Move) : List News :=
  (app.exchanges moves).map Exchange.news

variable {app : Application Store}

theorem told_step (memory : app.storage = Store.storage) (hs : app.world.store.Integrity) {log : List News}
    (told : app.world.store.Told log) {move : Move} (request : ∀ c, move ≠ .call c) :
    (app.step move).world.store.Told ((move.exchange? app).toList.map Exchange.news ++ log) := by
  cases move with
  | call c => exact absurd rfl (request c)
  | request scope r => exact told.reports (reports_serve memory hs scope r) hs
  | tick now => exact told
  | connect name scope r =>
    simp only [Move.exchange?, step, connect]
    split
    · rename_i channels _ hadmitted
      have hswitches : (subscriptionResponse scope r).isSuccess = false := by
        rw [subscriptionResponse, hadmitted]
        rfl
      have hnews := Exchange.news_of_failure (e := ⟨r, subscriptionResponse scope r⟩) hswitches
      simp only [Option.toList_some, List.map_cons, List.map_nil, List.singleton_append, hnews]
      exact told.reports .nothing hs
    · exact told.reports (reports_serve memory hs scope r) hs
  | disconnect name => exact told
  | hear name input =>
    simp only [step, hear]
    split <;> exact told
  | relay name =>
    simp only [step, relay]
    split <;> exact told

theorem told_after (clock : Instant) (interval : Duration) (capacity : Nat) {moves : List Move}
    (requests : ∀ c, .call c ∉ moves) :
    let app := start Store.storage .empty clock interval capacity
    (app.after moves).world.store.Told (app.news moves) := by
  induction moves with
  | nil => exact Store.told_empty
  | cons move earlier ih =>
    intro app
    have hearlier := ih fun c hc => requests c (List.mem_cons_of_mem _ hc)
    have hmove (c : Command) : move ≠ .call c := fun he => requests c (he ▸ List.mem_cons_self)
    have hnext := told_step (storage_after earlier)
      (integrity_after clock interval capacity earlier) hearlier hmove
    rw [news, exchanges, List.map_append]
    exact hnext

end Application

def Http.Response.Answers (response : Response) : Option Json → Prop
  | some body => response.status = 200 ∧ response.body = .json body
  | none => response.status = 404

def Api.ItemAction.getRow : WatchedTable → ItemAction
  | .fixture => .getFixture
  | .scoreboard => .getPart .scoreboard
  | .gameclock => .getPart .gameclock
  | .playclock => .getPart .playclock

namespace Application

variable {app : Application Store} {scope : Option TraceId} {r : Request} {id : Int}

theorem answers_lookup (memory : app.storage = Store.storage) {a : ItemAction}
    (asks : target? r = some (a, id)) (c : Command) (cause : Cause) {showing : c.Result → Json}
    (handles : a.handle app.interval id r =
      (do let x ← Handler.ofAction c.action; pure (.shown (showing x))))
    {found : Option c.Result} (absent : cause.failure.code = .notFound)
    (looks : (c.action.run.exec app.world.clock app.world.store).value =
      found.elim (.error cause) .ok) :
    (app.serve scope r).1.Answers (found.map showing) := by
  rw [serve_of_target memory asks handles, value_run memory, looks]
  cases found with
  | some x => exact ⟨rfl, rfl⟩
  | none =>
    change ((Refusal.failure cause.failure).traced scope).response.status = 404
    rw [status_failure, absent]
    rfl

theorem answers_getRow (memory : app.storage = Store.storage) {t : WatchedTable}
    (asks : target? r = some (.getRow t, id)) :
    (app.serve scope r).1.Answers (app.world.store.shown t id) := by
  have hpart (p : Part) (hasks : target? r = some (.getPart p, id)) :
      (app.serve scope r).1.Answers ((app.world.store.findPart p id).map (Showing.part p)) :=
    answers_lookup memory hasks (.getPart p id) (.missing p.table id) rfl rfl
      (value_lookup rfl _)
  cases t with
  | fixture =>
    exact answers_lookup memory asks (.getFixture id) (.missing .fixture id) rfl rfl
      (value_lookup rfl _)
  | scoreboard => exact hpart .scoreboard asks
  | gameclock => exact hpart .gameclock asks
  | playclock => exact hpart .playclock asks

theorem answers_getPartOf (memory : app.storage = Store.storage) {p : Part}
    (asks : target? r = some (.getPartOf p, id)) :
    (app.serve scope r).1.Answers ((app.world.store.findPartByMatch p id).map (Showing.part p)) :=
  answers_lookup memory asks (.getPartByMatch p id) (.missingPart p id) rfl rfl
    (value_lookup rfl _)

theorem answers_getThrottle (memory : app.storage = Store.storage)
    (asks : target? r = some (.getThrottle, id)) :
    (app.serve scope r).1.Answers ((app.world.store.throttle.get? id).map Showing.throttle) :=
  answers_lookup memory asks (.getThrottle id) (.missingEntry id) rfl rfl
    (value_lookup rfl _)

end Application

namespace Store.Told

variable {s : Store} {log : List News}

theorem partOf (told : s.Told log) (hs : s.Integrity) (p : Part) (m : Int) :
    ((madeFor p m log).bind fun id => lastShown p.table id log) =
      (s.findPartByMatch p m).map (Showing.part p) := by
  cases hfound : s.findPartByMatch p m with
  | none =>
    have hnone : madeFor p m log = none := by
      rw [Option.eq_none_iff_forall_not_mem]
      intro id hid
      exact findPartByMatch_eq_none hfound id ((told.made p m id).mp hid)
    rw [hnone]
    rfl
  | some row =>
    obtain ⟨hrow, howner⟩ := (findPartByMatch_eq_some hs).mp hfound
    have hmade : madeFor p m log = some (p.rowId row) :=
      (told.made p m _).mpr (live_part_eq_some.mpr ⟨row, hrow, by rw [howner]⟩)
    rw [hmade, Option.bind_some, told.shown, shown_part, hrow]

theorem made_iff_shown (told : s.Told log) (p : Part) (m id : Int) :
    madeFor p m log = some id ↔
      ∃ body, lastShown p.table id log = some body ∧ body.number? "matchId" = some m := by
  rw [told.made, told.shown, shown_part, live_part_eq_some]
  simp only [Option.map_eq_some_iff, Option.some.injEq]
  constructor
  · rintro ⟨row, hrow, howner⟩
    exact ⟨_, ⟨row, hrow, rfl⟩, by rw [number?_part_matchId, howner]⟩
  · rintro ⟨_, ⟨row, hrow, rfl⟩, howner⟩
    rw [number?_part_matchId] at howner
    exact ⟨row, hrow, Option.some.inj howner⟩

theorem throttle (told : s.Told log) (m : Int) :
    (s.throttle.get? m).map Showing.throttle = (lastNotified m log).map fun time =>
      .obj [("matchId", .int m), ("lastNotifiedAt", time)] := by
  rw [told.notified]
  cases hfound : s.throttle.get? m with
  | none => rfl
  | some record =>
    obtain ⟨matchId, time⟩ := record
    obtain rfl : matchId = m := told.own m _ hfound
    rfl

end Store.Told

namespace Application

/-- After a run of requests, a request for a row is answered with the body of the latest successful
response that created or changed it, if it has not been deleted since, nor its match; a request for the
scoreboard or a clock of a match with that of the one row that was created for the match; and a request
for the throttle with the time of the latest notification that has not been forgotten. -/
theorem reads_return_latest_writes (clock : Instant) (interval : Duration) (capacity : Nat)
    (moves : List Move) (requests : ∀ c, .call c ∉ moves) (scope : Option TraceId) (r : Request) :
    let app := start Store.storage .empty clock interval capacity
    let log := app.news moves
    let response := ((app.after moves).serve scope r).1
    (∀ t id, target? r = some (.getRow t, id) → response.Answers (lastShown t id log)) ∧
    (∀ p m, target? r = some (.getPartOf p, m) →
      response.Answers ((madeFor p m log).bind fun id => lastShown p.table id log)) ∧
    (∀ p m id, madeFor p m log = some id ↔
      ∃ body, lastShown p.table id log = some body ∧ body.number? "matchId" = some m) ∧
    ∀ m, target? r = some (.getThrottle, m) →
      response.Answers ((lastNotified m log).map fun time =>
        .obj [("matchId", .int m), ("lastNotifiedAt", time)]) := by
  intro app log response
  have hmemory : (app.after moves).storage = Store.storage := storage_after moves
  have htold : (app.after moves).world.store.Told log := told_after clock interval capacity requests
  have hintegrity := integrity_after clock interval capacity moves
  refine ⟨?_, ?_, htold.made_iff_shown, ?_⟩
  · intro t id hasks
    rw [htold.shown]
    exact answers_getRow hmemory hasks
  · intro p m hasks
    rw [htold.partOf hintegrity]
    exact answers_getPartOf hmemory hasks
  · intro m hasks
    rw [← htold.throttle]
    exact answers_getThrottle hmemory hasks

theorem reads_return_latest_writes_of_score :
    let send (method : Method) (target : String) (body : List (String × Json)) : Move :=
      .request none ⟨method, target, [("content-type", Utf8.encode "application/json")],
        Utf8.encode (Json.obj body).render⟩
    let moves : List Move :=
      [send .patch "/api/v1/scoreboards/1" [("scoreTeamA", .int 7)],
        send .post "/api/v1/scoreboards" [("matchId", .int 1)],
        send .post "/api/v1/matches" [("tournamentId", .int 1), ("teamAId", .int 1),
          ("teamBId", .int 2), ("title", .str "final")]]
    let app := start Store.storage .empty .epoch 1000000000 256
    let log := app.news moves
    let r : Request := ⟨.get, "/api/v1/matches/1/scoreboard", [], []⟩
    (∀ c, .call c ∉ moves) ∧ target? r = some (.getPartOf .scoreboard, 1) ∧
      madeFor .scoreboard 1 log = some 1 ∧
      (lastShown .scoreboard 1 log).bind (·.number? "scoreTeamA") = some 7 ∧
      ((app.after moves).serve none r).1.Answers (lastShown .scoreboard 1 log) := by
  intro send moves app log r
  have hrequests (c : Command) : .call c ∉ moves := by simp [moves, send]
  have hasks : target? r = some (.getPartOf .scoreboard, 1) := by decide +kernel
  have hmade : madeFor .scoreboard 1 log = some 1 := by decide +kernel
  have hscore : (lastShown .scoreboard 1 log).bind (·.number? "scoreTeamA") = some 7 := by
    decide +kernel
  obtain ⟨-, hpartOf, -, -⟩ :=
    reads_return_latest_writes .epoch 1000000000 256 moves hrequests none r
  have hanswers := hpartOf .scoreboard 1 hasks
  rw [hmade] at hanswers
  exact ⟨hrequests, hasks, hmade, hscore, hanswers⟩

end Application

end Matchday
