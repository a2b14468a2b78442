import Matchday.Proofs.Patches
import Matchday.Proofs.ThrottleSpacing
import Matchday.Proofs.Timestamps

set_option autoImplicit false

namespace Matchday

open Matchday.Api
open Matchday.Http
open Matchday.Message
open Matchday.Service

def Service.Command.OnClock : Command → Prop
  | .createFixture draft => ∀ i ∈ draft.matchDate, i.OnClock
  | .updateFixture _ patch => ∀ i ∈ patch.matchDate, i.OnClock
  | .touchThrottle _ time => ∀ i ∈ time, i.OnClock
  | _ => True

structure Store.OnClock (s : Store) : Prop where
  fixtures : s.FixturesAre fun fields => ∀ i ∈ fields.matchDate, i.OnClock
  throttle : ∀ m record, s.throttle.get? m = some record → record.lastNotifiedAt.OnClock

namespace Service.Command

variable {now : Instant} {s : Store} {c : Command}

theorem fixtures_onClock_exec_of_ne (h : s.OnClock) (shown : c.OnClock)
    (other : ∀ id patch, c ≠ .updateFixture id patch) :
    (c.action.run.exec now s).store.FixturesAre fun fields => ∀ i ∈ fields.matchDate, i.OnClock := by
  refine Prog.exec_of_within (I := fun s' => s'.FixturesAre fun fields => ∀ i ∈ fields.matchDate, i.OnClock)
    (fun past call s' allowed h' => ?_) (within_action c) h.fixtures
  refine (s'.effect_answer now call).fixturesAre (fun fields hfields => ?_) h'
  obtain ⟨-, hjustified⟩ := allowed
  cases call with
  | insertFixture given =>
    cases hfields
    obtain ⟨draft, rfl, hcheck⟩ := hjustified
    rw [Plain.check_fixture hcheck]
    exact shown
  | updateFixture row =>
    obtain ⟨id, current, patch, hc, -⟩ := hjustified
    exact absurd hc (other id patch)
  | _ => cases hfields

theorem fixtures_onClock_exec (h : s.OnClock) (shown : c.OnClock) :
    (c.action.run.exec now s).store.FixturesAre fun fields => ∀ i ∈ fields.matchDate, i.OnClock := by
  by_cases hpatches : ∃ id patch, c = .updateFixture id patch
  · obtain ⟨id, patch, rfl⟩ := hpatches
    cases hvalue : ((updateFixture id patch).action.run.exec now s).value with
    | error cause =>
      rw [(Spares.action _).store_exec hvalue]
      exact h.fixtures
    | ok row =>
      obtain ⟨⟨old, hold, hpatch⟩, hstore⟩ := yields_updateFixture ⟨hvalue, rfl⟩
      change (Prog.exec now (Service.updateFixture id patch).run s).store.FixturesAre _
      have hfields := Plain.check_fixture (withPatch_fixture hpatch).2
      rw [hstore]
      refine h.fixtures.insert row _ fun i hi => ?_
      rw [hfields] at hi
      rcases (Option.orElse_eq_some _ _ _).mp hi with hgiven | ⟨-, hkept⟩
      · exact shown i hgiven
      · exact h.fixtures id old hold i hkept
  · exact fixtures_onClock_exec_of_ne h shown fun id patch hc => hpatches ⟨id, patch, hc⟩

theorem throttle_onClock_exec (h : s.OnClock) (clock : now.OnClock) (shown : c.OnClock) (m : Int)
    (record : ThrottleRecord) (found : (c.action.run.exec now s).store.throttle.get? m = some record) :
    record.lastNotifiedAt.OnClock := by
  by_cases hother : c.throttled? = some m
  · cases hvalue : (c.action.run.exec now s).value with
    | error cause =>
      rw [(Spares.action c).store_exec hvalue] at found
      exact h.throttle m record found
    | ok x =>
      have hyields : Yields now s c.action x _ := ⟨hvalue, rfl⟩
      cases c with
      | touchThrottle k time =>
        obtain ⟨hrecord, hstore⟩ := yields_touchThrottle hyields
        cases hother
        rw [hstore, Table.get?_insert, if_pos rfl, hrecord] at found
        cases found
        cases time with
        | none => exact clock
        | some time => exact shown time rfl
      | acquireThrottle interval k =>
        cases hother
        rcases yields_acquireThrottle hyields with ⟨-, hstore⟩ | ⟨last, wait, -, hstore⟩
        · rw [hstore, Table.get?_insert, if_pos rfl] at found
          cases found
          exact clock
        · rw [hstore] at found
          exact h.throttle m record found
      | clearThrottle k =>
        cases hother
        rw [yields_clearThrottle hyields, Table.get?_erase, if_pos rfl] at found
        cases found
      | _ => cases hother
  · rw [throttle_exec hother] at found
    exact h.throttle m record found

theorem onClock_exec (h : s.OnClock) (clock : now.OnClock) (shown : c.OnClock) :
    (c.action.run.exec now s).store.OnClock :=
  ⟨fixtures_onClock_exec h shown, throttle_onClock_exec h clock shown⟩

end Service.Command

namespace Api

def Gives {α : Type} (P : α → Prop) (read : Except Refusal α) : Prop := ∀ a, read = .ok a → P a

section

variable {α β : Type} {P : α → Prop} {Q : β → Prop} {read : Except Refusal α}

theorem Gives.pure {a : α} (h : P a) : Gives P (.ok a) := by
  rintro _ ⟨⟩
  exact h

theorem Gives.bind {f : α → Except Refusal β} (h : Gives P read) (next : ∀ a, P a → Gives Q (f a)) :
    Gives Q (read >>= f) := by
  cases read with
  | error refusal => exact nofun
  | ok a => exact next a (h a rfl)

theorem Gives.anything : Gives (fun _ => True) read := fun _ _ => trivial

end

theorem gives_timestamp (field : String) (text : Option String) :
    Gives (fun time => ∀ i ∈ time, i.OnClock) (Field.optional (Field.timestamp field) text) := by
  cases text with
  | none => exact .pure nofun
  | some text =>
    rw [Field.optional, Field.timestamp]
    cases hread : Rfc3339.parse? text with
    | none => exact nofun
    | some i =>
      refine .pure ?_
      rintro _ ⟨⟩
      exact Rfc3339.onClock_of_parse? hread

theorem gives_fixtureDraft (m : CreateFixture) :
    Gives (fun draft => ∀ i ∈ draft.matchDate, i.OnClock) (Reading.fixtureDraft m) :=
  Gives.anything.bind fun _ _ => Gives.anything.bind fun _ _ => Gives.anything.bind fun _ _ =>
    Gives.anything.bind fun _ _ => (gives_timestamp _ _).bind fun _ shown => .pure shown

theorem gives_asked_creation (creation : Creation) (r : Request) :
    Gives Command.OnClock (creation.asked r) := by
  cases creation with
  | fixture =>
    refine Gives.anything.bind fun m _ => (gives_fixtureDraft m).bind fun draft shown => ?_
    exact .pure shown
  | part p =>
    cases p <;> exact Gives.anything.bind fun _ _ => Gives.anything.bind fun _ _ => .pure trivial

theorem gives_asked_item (interval : Duration) (a : ItemAction) (id : Int) (r : Request) :
    Gives Command.OnClock (a.asked interval id r) := by
  cases a with
  | updateFixture =>
    refine Gives.anything.bind fun m _ => ?_
    refine Gives.bind ((gives_timestamp _ _).bind fun _ shown => .pure shown)
      fun patch (shown : ∀ i ∈ patch.matchDate, i.OnClock) => ?_
    exact .pure shown
  | touchThrottle =>
    refine Gives.bind (Gives.anything.bind fun _ _ => gives_timestamp _ _) fun time shown => ?_
    exact .pure shown
  | updatePart p =>
    cases p with
    | scoreboard => exact Gives.anything.bind fun _ _ => .pure trivial
    | gameclock | playclock => exact Gives.anything.bind fun _ _ => Gives.anything.bind fun _ _ => .pure trivial
  | startClock k =>
    cases k with
    | game => exact Gives.anything.bind fun _ _ => .pure trivial
    | play => exact Gives.anything.bind fun _ _ => Gives.anything.bind fun _ _ => .pure trivial
  | pauseGameClock | resetGameClock | stopPlayClock => exact Gives.anything.bind fun _ _ => .pure trivial
  | _ => exact .pure trivial

theorem onClock_of_asked? {interval : Duration} {r : Request} {c : Command}
    (h : asked? interval r = some c) : c.OnClock := by
  obtain ⟨route, -, hasked⟩ := Option.bind_eq_some_iff.mp h
  have hgives : Gives Command.OnClock (route.asked interval r) := by
    cases route with
    | create creation => exact gives_asked_creation creation r
    | item a segment => exact Gives.anything.bind fun id _ => gives_asked_item interval a id r
  cases hread : route.asked interval r with
  | error refusal =>
    rw [hread] at hasked
    cases hasked
  | ok given =>
    rw [hread] at hasked
    cases hasked
    exact hgives c hread

end Api

namespace Application

def Move.OnClock : Move → Prop
  | .call c => c.OnClock
  | .tick now => now.OnClock
  | _ => True

variable {app : Application Store}

theorem clock_serve (memory : app.storage = Store.storage) (scope : Option TraceId) (r : Request) :
    (app.serve scope r).2.world.clock = app.world.clock := by
  cases hfound : Route.find? r.method r.segments with
  | none => rw [serve_of_no_route hfound]
  | some route => rw [serve_of_route hfound, clock_run memory]

theorem onClock_clock_step (memory : app.storage = Store.storage) {move : Move} (shown : move.OnClock)
    (clock : app.world.clock.OnClock) : (app.step move).world.clock.OnClock := by
  cases move with
  | call c => exact (clock_run memory c.action.run).symm ▸ clock
  | request scope r => exact (clock_serve memory scope r).symm ▸ clock
  | tick now => exact shown
  | connect name scope r =>
    simp only [step, connect]
    split
    · exact clock
    · exact (clock_serve memory scope r).symm ▸ clock
  | disconnect name => exact clock
  | hear name input =>
    simp only [step, hear]
    split <;> exact clock
  | relay name =>
    simp only [step, relay]
    split <;> exact clock

theorem Move.onClock_command {interval : Duration} {move : Move} (shown : move.OnClock) {c : Command}
    (h : move.command? interval = some c) : c.OnClock := by
  cases move with
  | call command =>
    cases h
    exact shown
  | request _ r | connect _ _ r => exact onClock_of_asked? h
  | _ => cases h

theorem onClock_after (memory : app.storage = Store.storage) (clock : app.world.clock.OnClock)
    (store : app.world.store.OnClock) {moves : List Move} (shown : ∀ move ∈ moves, move.OnClock) :
    (app.after moves).world.clock.OnClock ∧ (app.after moves).world.store.OnClock := by
  induction moves with
  | nil => exact ⟨clock, store⟩
  | cons move earlier ih =>
    obtain ⟨hmove, hearlier⟩ := List.forall_mem_cons.mp shown
    obtain ⟨hclock, hstore⟩ := ih hearlier
    have hmemory : (app.after earlier).storage = Store.storage := (storage_after earlier).trans memory
    refine ⟨onClock_clock_step hmemory hmove hclock, ?_⟩
    rw [after, store_step hmemory]
    cases hasked : move.command? (app.after earlier).interval with
    | none => exact hstore
    | some c => exact Command.onClock_exec hstore hclock (Move.onClock_command hmove hasked)

end Application

end Matchday
