import Matchday.Proofs.Execution
import Matchday.Proofs.IdleRequests

set_option autoImplicit false

/-!
# What a request comes to

A request that has a route runs as a program on its own. It is refused and leaves the store as it was, or
the command of its endpoint succeeds and its reply is the response (`Served`).
-/
namespace Matchday

open Matchday.Api
open Matchday.Http
open Matchday.Service

namespace Api

def target? (r : Request) : Option (ItemAction × Int) :=
  match Route.find? r.method r.segments with
  | some (.item a segment) => (Input.id segment).toOption.map fun id => (a, id)
  | _ => none

theorem target?_eq_some {r : Request} {a : ItemAction} {id : Int} :
    target? r = some (a, id) ↔
      ∃ segment, Route.find? r.method r.segments = some (.item a segment) ∧
        Input.id segment = .ok id := by
  rw [target?]
  rcases Route.find? r.method r.segments with _ | creation | ⟨b, segment⟩
  · simp
  · simp
  · have hread : (Input.id segment).toOption = some id ↔ Input.id segment = .ok id := by
      cases Input.id segment <;> simp [Except.toOption]
    simp only [Option.map_eq_some_iff, Option.some.injEq, Prod.mk.injEq, Route.item.injEq]
    constructor
    · rintro ⟨n, hn, rfl, rfl⟩
      exact ⟨segment, ⟨rfl, rfl⟩, hread.mp hn⟩
    · rintro ⟨segment', ⟨rfl, rfl⟩, hid⟩
      exact ⟨id, hread.mpr hid, rfl, rfl⟩

theorem Route.handle_item {interval : Duration} {a : ItemAction} {segment : String} {id : Int}
    {r : Request} (read : Input.id segment = .ok id) :
    (Route.item a segment).handle interval r = a.handle interval id r := by
  rw [Route.handle, read]
  rfl

theorem isSuccess_refusal (refusal : Refusal) : refusal.response.isSuccess = false := by
  cases refusal with
  | failure f =>
    have hstatus (body : Body) : (Response.of (statusOf f.code) body).isSuccess = false := by
      cases f.code <;> rfl
    simp only [Refusal.response, failureResponse]
    split
    · split_ifs
      · exact hstatus (.json (Failure.record.encode f.disclosed))
      · rfl
    · exact hstatus _
  | oversized | unmeasured | unreadable reason => rfl

def tellsEmit (response : Response) : Bool :=
  match response.body with
  | .json value =>
    match value.get? "emit" with
    | some (.bool emit) => emit
    | _ => false
  | _ => false

theorem tellsEmit_decision (decision : ThrottleDecision) :
    tellsEmit (Reply.shown (Showing.decision decision)).response = decision.shouldEmit := by
  cases decision <;> rfl

variable {now : Instant} {s s' : Store}

theorem Handler.exec_ran (c : Command) (reply : c.Result → Reply) :
    Prog.exec now (ExceptT.run (do let x ← ofAction c.action; pure (reply x))) s =
      ⟨((c.action.run.exec now s).value.mapError fun e => Refusal.failure e.failure).map reply,
        (c.action.run.exec now s).store, (c.action.run.exec now s).told⟩ := by
  change ((c.action.run.bind _).bind _).exec now s = _
  rw [Prog.exec_bind, Prog.exec_bind]
  generalize c.action.run.exec now s = ran
  obtain ⟨value | value, store, told⟩ := ran
  · exact congrArg _ ((List.append_nil _).trans (List.append_nil told))
  · exact congrArg _ ((List.append_nil _).trans (List.append_nil told))

/-- What serving a request that has a route comes to: a response and the store after it. -/
inductive Served (interval : Duration) (now : Instant) (s : Store) (route : Route) :
    Response → Store → Prop
  | refused {response : Response} (failed : response.isSuccess = false) :
    Served interval now s route response s
  | ran {c : Command} {reply : c.Result → Reply} {x : c.Result} {s' : Store}
      (performs : route.Performs interval c reply) (yields : Yields now s c.action x s') :
    Served interval now s route (reply x).response s'

theorem Route.exec_serve (interval : Duration) (scope : Option TraceId) (route : Route) (r : Request) :
    (route.serve interval scope r).exec now s =
      ⟨match ((route.handle interval r).run.exec now s).value with
        | .ok reply => reply.response
        | .error refusal => (refusal.traced scope).response,
        ((route.handle interval r).run.exec now s).store,
        ((route.handle interval r).run.exec now s).told⟩ := by
  rw [Route.serve, Prog.exec_bind]
  exact congrArg _ (List.append_nil _)

/-- The command that a request asks for; none if it has no route or is refused for what it says. -/
def asked? (interval : Duration) (r : Request) : Option Command := do
  let route ← Route.find? r.method r.segments
  (route.asked interval r).toOption

theorem Route.store_serve (interval : Duration) (scope : Option TraceId) (route : Route) (r : Request) :
    ((route.serve interval scope r).exec now s).store =
      (route.asked interval r).toOption.elim s fun c => (c.action.run.exec now s).store := by
  have hobeys := obeys_route interval route r
  rw [Route.exec_serve]
  generalize route.asked interval r = asked, route.handle interval r = handler at hobeys ⊢
  cases hobeys with
  | refused refusal => rfl
  | ran c reply performed =>
    rw [Handler.exec_ran]
    rfl

end Api

theorem Spares.store_exec {α ε : Type} {P : α → Prop} {a : ExceptT ε Prog α} (h : Spares P a)
    {now : Instant} {s : Store} {e : ε} (failed : (a.run.exec now s).value = .error e) :
    (a.run.exec now s).store = s := by
  let w : World Store := ⟨s, now, .standard, [], .ofCapacity 0⟩
  have hrun := Prog.run_eq_exec a.run w
  rcases h w with hsame | ⟨x, hx, -⟩
  · have hstore := congrArg World.store hsame
    rwa [hrun, World.store_foldl_fire] at hstore
  · rw [hrun] at hx
    cases failed.symm.trans hx

namespace Api

variable {now : Instant} {s : Store}

theorem Route.served (interval : Duration) (scope : Option TraceId) (route : Route) (r : Request) :
    Served interval now s route ((route.serve interval scope r).exec now s).value
      ((route.serve interval scope r).exec now s).store := by
  rw [Route.exec_serve]
  generalize hhandle : route.handle interval r = handler
  have hruns : Handler.Runs (route.Performs interval) handler := hhandle ▸ runs_route interval route r
  cases hruns with
  | refused refusal => exact .refused (isSuccess_refusal (refusal.traced scope))
  | ran c reply performs =>
    rw [Handler.exec_ran]
    cases hvalue : (c.action.run.exec now s).value with
    | error cause =>
      rw [(Spares.action c).store_exec hvalue]
      exact .refused (isSuccess_refusal _)
    | ok x => exact .ran performs ⟨hvalue, rfl⟩

end Api

namespace Application

variable {app : Application Store}

theorem run_eq_exec {α : Type} (memory : app.storage = Store.storage) (p : Prog α) :
    app.run p =
      ((p.exec app.world.clock app.world.store).value,
        { app with
          world := (p.exec app.world.clock app.world.store).told.foldl World.fire
            { app.world with store := (p.exec app.world.clock app.world.store).store } }) := by
  rw [run, memory, Prog.run_eq_exec]

section

variable {α : Type} (memory : app.storage = Store.storage) (p : Prog α)

include memory

theorem value_run : (app.run p).1 = (p.exec app.world.clock app.world.store).value := by
  rw [run_eq_exec memory]

theorem store_run :
    (app.run p).2.world.store = (p.exec app.world.clock app.world.store).store := by
  rw [run_eq_exec memory, World.store_foldl_fire]

theorem clock_run : (app.run p).2.world.clock = app.world.clock := by
  rw [run_eq_exec memory, World.clock_foldl_fire]

theorem feed_run : (app.run p).2.world.feed = app.world.feed := by
  rw [run_eq_exec memory, World.feed_foldl_fire]

theorem publishedSince_run :
    (app.run p).2.publishedSince app.world.published.length =
      (p.exec app.world.clock app.world.store).told.filterMap app.world.feed.announce := by
  rw [run_eq_exec memory, publishedSince]
  simp only [World.published_foldl_fire, List.length_append, Nat.add_sub_cancel, List.take_left,
    List.reverse_reverse]

end

theorem serve_of_route {scope : Option TraceId} {r : Request} {route : Route}
    (found : Route.find? r.method r.segments = some route) :
    app.serve scope r = app.run (route.serve app.interval scope r) := by
  rw [serve, found]

theorem serve_of_target (memory : app.storage = Store.storage) {scope : Option TraceId} {r : Request}
    {a : ItemAction} {id : Int} (asks : target? r = some (a, id)) {c : Command}
    {reply : c.Result → Reply}
    (handles : a.handle app.interval id r =
      (do let x ← Handler.ofAction c.action; pure (reply x))) :
    app.serve scope r =
      (match (app.run c.action.run).1 with
        | .ok x => (reply x).response
        | .error cause => ((Refusal.failure cause.failure).traced scope).response,
        (app.run c.action.run).2) := by
  obtain ⟨segment, hfound, hread⟩ := target?_eq_some.mp asks
  rw [serve_of_route hfound, run_eq_exec memory, run_eq_exec memory, Route.exec_serve,
    Route.handle_item hread, handles, Handler.exec_ran]
  cases (c.action.run.exec app.world.clock app.world.store).value <;> rfl

theorem served (memory : app.storage = Store.storage) (scope : Option TraceId) {r : Request}
    {route : Route} (found : Route.find? r.method r.segments = some route) :
    Served app.interval app.world.clock app.world.store route (app.serve scope r).1
      (app.serve scope r).2.world.store := by
  rw [serve_of_route found, value_run memory, store_run memory]
  exact route.served app.interval scope r

theorem serve_of_no_route {scope : Option TraceId} {r : Request}
    (found : Route.find? r.method r.segments = none) : (app.serve scope r).2 = app := by
  rw [serve, found]
  dsimp only
  split_ifs <;> rfl

theorem storage_step (move : Move) : (app.step move).storage = app.storage := by
  cases move <;> simp only [step, run, serve, setClock, connect, disconnect, hear, relay, setSocket] <;>
    repeat' split
  all_goals rfl

theorem interval_step (move : Move) : (app.step move).interval = app.interval := by
  cases move <;> simp only [step, run, serve, setClock, connect, disconnect, hear, relay, setSocket] <;>
    repeat' split
  all_goals rfl

theorem storage_after (moves : List Move) : (app.after moves).storage = app.storage := by
  induction moves with
  | nil => rfl
  | cons move earlier ih => exact (storage_step move).trans ih

theorem interval_after (moves : List Move) : (app.after moves).interval = app.interval := by
  induction moves with
  | nil => rfl
  | cons move earlier ih => exact (interval_step move).trans ih

def Move.command? (interval : Duration) : Move → Option Command
  | .call c => some c
  | .request _ r | .connect _ _ r => asked? interval r
  | _ => none

theorem store_serve (memory : app.storage = Store.storage) (scope : Option TraceId) (r : Request) :
    (app.serve scope r).2.world.store =
      (asked? app.interval r).elim app.world.store fun c =>
        (c.action.run.exec app.world.clock app.world.store).store := by
  cases hfound : Route.find? r.method r.segments with
  | none =>
    rw [serve_of_no_route hfound, asked?, hfound]
    rfl
  | some route =>
    rw [serve_of_route hfound, store_run memory, Route.store_serve, asked?, hfound]
    rfl

theorem asked?_of_subscription {interval : Duration} {r : Request} (h : isSubscription r = true) :
    asked? interval r = none := by
  rw [isSubscription, Bool.and_eq_true, beq_iff_eq, beq_iff_eq] at h
  rw [asked?, h.1, h.2]
  rfl

theorem store_step (memory : app.storage = Store.storage) (move : Move) :
    (app.step move).world.store =
      (move.command? app.interval).elim app.world.store fun c =>
        (c.action.run.exec app.world.clock app.world.store).store := by
  cases move with
  | call c => exact store_run memory c.action.run
  | request scope r => exact store_serve memory scope r
  | tick now => rfl
  | connect name scope r =>
    simp only [step, connect, Move.command?]
    split
    · next hsubscribes _ =>
      rw [asked?_of_subscription hsubscribes]
      rfl
    · exact store_serve memory scope r
  | disconnect name => rfl
  | hear name input =>
    simp only [step, hear]
    split <;> rfl
  | relay name =>
    simp only [step, relay]
    split <;> rfl

theorem integrity_after (clock : Instant) (interval : Duration) (capacity : Nat) (moves : List Move) :
    ((start Store.storage .empty clock interval capacity).after moves).world.store.Integrity := by
  obtain ⟨t, hfollows⟩ := follows_after clock interval capacity moves
  rw [← hfollows.2.world]
  exact hfollows.2.sound.integrity

theorem store_invariant_of_justified {I : Store → Prop}
    (kept : ∀ s now (command : Command) past c, command.Justified past c → I s → I (Store.answer s now c).2)
    (memory : app.storage = Store.storage) (holds : I app.world.store) (moves : List Move) :
    I (app.after moves).world.store := by
  induction moves with
  | nil => exact holds
  | cons move earlier ih =>
    rw [after, store_step ((storage_after earlier).trans memory)]
    cases move.command? (app.after earlier).interval with
    | none => exact ih
    | some c =>
      have hkept (past : Past) (call : Call) (s : Store) (allowed : c.rule.ask past call) :=
        kept s (app.after earlier).world.clock c past call allowed.2
      exact Prog.exec_of_within hkept (within_action c) ih

theorem store_invariant {I : Store → Prop} (kept : ∀ s now c, I s → I (Store.answer s now c).2)
    (memory : app.storage = Store.storage) (holds : I app.world.store) (moves : List Move) :
    I (app.after moves).world.store :=
  store_invariant_of_justified (fun s now _ _ c _ => kept s now c) memory holds moves

end Application

end Matchday
