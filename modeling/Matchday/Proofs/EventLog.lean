import Matchday.Application
import Matchday.Proofs.Requests

set_option autoImplicit false

namespace Matchday.Application

open Matchday.Api
open Matchday.Http
open Matchday.Live
open Matchday.Service

/-- One step in the use of an application. -/
inductive Move
  | call (c : Command)
  | request (scope : Option TraceId) (r : Request)
  | tick (now : Instant)
  | connect (name : String) (scope : Option TraceId) (r : Request)
  | disconnect (name : String)
  | hear (name : String) (input : Session.Input)
  | relay (name : String)

def step (app : Application Store) : Move → Application Store
  | .call c => (app.run c.action.run).2
  | .request scope r => (app.serve scope r).2
  | .tick now => app.setClock now
  | .connect name scope r => (app.connect name scope r).2
  | .disconnect name => app.disconnect name
  | .hear name input => (app.hear name input).2
  | .relay name => (app.relay name).2

def after (app : Application Store) : List Move → Application Store
  | [] => app
  | m :: earlier => (app.after earlier).step m

/-- The application is what traffic without overlap makes of it. -/
def Follows (app : Application Store) (t : Traffic) : Prop :=
  app.storage = Store.storage ∧ t.Sequential app.world

variable {app : Application Store} {t : Traffic}

theorem Follows.call (h : app.Follows t) (c : Command) :
    ∃ t' : Traffic, (app.run c.action.run).2.Follows t' ∧
      (c.mutates = false ∨ (∃ cause, (app.run c.action.run).1 = .error cause) →
        t'.announced = t.announced) := by
  obtain ⟨hstorage, hsequential⟩ := h
  obtain ⟨t', past, hnext, hended, hannounced⟩ := hsequential.command c
  simp only [run, hstorage]
  refine ⟨t', ⟨rfl, hnext⟩, ?_⟩
  intro hidle
  rw [hannounced, hended.silent hidle, List.nil_append]

theorem Follows.serve (h : app.Follows t) (scope : Option TraceId) (r : Request) :
    ∃ t' : Traffic, (app.serve scope r).2.Follows t' ∧
      ((∀ route, Route.find? r.method r.segments = some route → route.mutates = false) ∨
        (app.serve scope r).1.isSuccess = false → t'.announced = t.announced) := by
  obtain ⟨hstorage, hsequential⟩ := h
  rw [Application.serve]
  cases hroute : Route.find? r.method r.segments with
  | none =>
    refine ⟨t, ?_, fun _ => rfl⟩
    split_ifs <;> exact ⟨hstorage, hsequential⟩
  | some route =>
    obtain ⟨t', hnext, hquiet⟩ := Route.serve_sequential hsequential app.interval scope route r
    simp only [run, hstorage]
    refine ⟨t', ⟨rfl, hnext⟩, ?_⟩
    rintro (hmutates | hfailed)
    · exact hquiet (.inl (hmutates route rfl))
    · exact hquiet (.inr hfailed)

theorem Follows.of_world (h : app.Follows t) {app' : Application Store} (clock : Instant) (bus : Bus)
    (storage : app'.storage = app.storage)
    (world : app'.world = { app.world with clock := clock, bus := bus }) :
    ∃ t' : Traffic, app'.Follows t' := by
  refine ⟨{ t with world := app'.world }, storage.trans h.1, ?_⟩
  rw [world]
  exact h.2.of_world clock bus

theorem Follows.step (h : app.Follows t) (m : Move) : ∃ t' : Traffic, (app.step m).Follows t' := by
  cases m with
  | call c =>
    obtain ⟨t', hnext, -⟩ := h.call c
    exact ⟨t', hnext⟩
  | request scope r =>
    obtain ⟨t', hnext, -⟩ := h.serve scope r
    exact ⟨t', hnext⟩
  | tick now => exact h.of_world now app.world.bus rfl rfl
  | connect name scope r =>
    obtain ⟨t', hnext, -⟩ := h.serve scope r
    simp only [Application.step, connect]
    split
    · exact h.of_world app.world.clock _ rfl rfl
    · exact ⟨t', hnext⟩
  | disconnect name => exact h.of_world app.world.clock _ rfl rfl
  | hear name input =>
    simp only [Application.step, hear]
    split
    · exact ⟨t, h⟩
    · exact h.of_world app.world.clock _ rfl rfl
  | relay name =>
    simp only [Application.step, relay]
    split
    · exact ⟨t, h⟩
    · exact h.of_world app.world.clock _ rfl rfl

theorem follows_after (clock : Instant) (interval : Duration) (capacity : Nat) (moves : List Move) :
    ∃ t : Traffic, ((start Store.storage .empty clock interval capacity).after moves).Follows t := by
  induction moves with
  | nil => exact ⟨_, rfl, Traffic.sequential_start clock capacity⟩
  | cons m earlier ih =>
    obtain ⟨t, ht⟩ := ih
    exact ht.step m

theorem Follows.published (h : app.Follows t) :
    app.world.published = t.announced.map RowChange.notice := by
  rw [← h.2.world]
  exact h.2.sound.published

theorem Follows.log (h : app.Follows t) :
    app.world.published.map Prod.snd = t.committed.map ChangeEvent.ofRowChange := by
  rw [h.published, h.2.quiet, List.map_map]
  rfl

/-- The published events replay to the rows of the store, through rows whose owners are there, each
on its own table's channel; they have of each clock below the greatest version as many updates as its
version tells. What only reads, concerns the throttle or fails publishes nothing. -/
theorem event_log_mirrors_store (clock : Instant) (interval : Duration) (capacity : Nat)
    (moves : List Move) :
    let app := (start Store.storage .empty clock interval capacity).after moves
    let log := app.world.published.map Prod.snd
    LiveRows.replay log = some app.world.store.live ∧
    (∀ earlier, earlier <:+ log → ∃ rows, LiveRows.replay earlier = some rows ∧
      ∀ u id m, rows u id = some (some m) → rows .fixture m = some none) ∧
    (∀ notice ∈ app.world.published, notice.1 = notice.2.table.channel) ∧
    (∀ (k : ClockKind) id row, app.world.store.findPart k.part id = some row →
      (k.version row).number < greatestVersion →
      ChangeEvent.updatesSinceInsert k.part.table id log = (k.version row).number - 1) ∧
    (∀ c : Command, c.mutates = false ∨ (∃ cause, (app.run c.action.run).1 = .error cause) →
      (app.run c.action.run).2.world.published = app.world.published) ∧
    ∀ scope r, r.method = .get ∨
        (∀ route, Route.find? r.method r.segments = some route → route.mutates = false) ∨
        (app.serve scope r).1.isSuccess = false →
      (app.serve scope r).2.world.published = app.world.published := by
  intro app log
  -- All but the last two parts speak of the log alone, which is that of some traffic without overlap.
  obtain ⟨t, hfollows⟩ := follows_after clock interval capacity moves
  have hlog : log = t.committed.map ChangeEvent.ofRowChange := hfollows.log
  have hworld : t.world = app.world := hfollows.2.world
  have hmirrors : LiveRows.Mirrors log app.world.store.live := by
    rw [hlog, ← hworld]
    exact hfollows.2.sound.mirrors
  refine ⟨hmirrors.replayed, ?_, ?_, ?_, ?_, ?_⟩
  · intro earlier hsuffix
    obtain ⟨rows, hreplay, hconsistent⟩ := hmirrors.consistent earlier hsuffix
    exact ⟨rows, hreplay, hconsistent.owned⟩
  · intro notice hmem
    rw [hfollows.published] at hmem
    obtain ⟨change, -, rfl⟩ := List.mem_map.mp hmem
    rfl
  · intro k id row hrow hlt
    rw [← hworld] at hrow
    have hcount := hfollows.2.counted k id row hrow
    rw [hlog]
    omega
  · intro c hidle
    obtain ⟨t', hnext, hquiet⟩ := hfollows.call c
    rw [hnext.published, hquiet hidle, hfollows.published]
  · intro scope r hidle
    obtain ⟨t', hnext, hquiet⟩ := hfollows.serve scope r
    rw [hnext.published, hfollows.published, hquiet ?_]
    rcases hidle with hget | hmutates | hfailed
    · exact .inl fun route hroute => Route.mutates_of_get (hget ▸ hroute)
    · exact .inl hmutates
    · exact .inr hfailed

end Matchday.Application
