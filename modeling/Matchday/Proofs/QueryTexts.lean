import Matchday.Proofs.Discretion
import Matchday.Proofs.Envelope

set_option autoImplicit false

namespace Matchday

open Matchday.Api
open Matchday.Http
open Matchday.Live

namespace Failure

theorem disclosed_withTraceId (f : Failure) (id : Option String) :
    (f.withTraceId id).disclosed = f.disclosed.withTraceId id := by
  obtain ⟨code, message, traceId, details⟩ := f
  cases id <;> cases code <;> rfl

end Failure

namespace Api

theorem failureResponse_disclosed (f : Failure) : failureResponse f.disclosed = failureResponse f := by
  obtain ⟨code, message, traceId, details⟩ := f
  cases code <;> rfl

theorem response_of_told {c d : Cause} (h : c.told = d.told) (scope : Option TraceId) :
    ((Refusal.failure c.failure).traced scope).response =
      ((Refusal.failure d.failure).traced scope).response := by
  have hdisclosed (e : Cause) : ((Refusal.failure e.failure).traced scope).response =
      failureResponse (e.told.withTraceId (scope.map TraceId.render)) := by
    rw [Cause.told, ← Failure.disclosed_withTraceId, failureResponse_disclosed]
    rfl
  rw [hdisclosed, hdisclosed, h]

theorem Route.serve_alike (interval : Duration) (scope : Option TraceId) (route : Route) (r : Request) :
    Prog.Alike Eq (route.serve interval scope r) (route.serve interval scope r) := by
  have hruns := runs_route interval route r
  rw [Route.serve]
  generalize route.handle interval r = handler at hruns
  cases hruns with
  | refused refusal => exact .done rfl
  | ran c reply performed =>
    change Prog.Alike Eq (((c.action.run.bind _).bind _).bind _) (((c.action.run.bind _).bind _).bind _)
    rw [Prog.bind_assoc, Prog.bind_assoc]
    refine Prog.Alike.bind (Discreet.action c) ?_
    rintro (e | x) (d | y) h
    · exact .done (response_of_told (Except.error.inj h) scope)
    · cases h
    · cases h
    · cases h
      exact .done rfl

def SaysInternal (scope : Option TraceId) (response : Response) : Prop :=
  response.body = .json (.obj
      ([("code", .str "internal_error"), ("message", .str "Internal server error")] ++
        scope.toList.map fun id => ("traceId", .str id.render))) ∧
    response.header? TraceId.header = scope.map TraceId.render

theorem header?_withHeader (response : Response) (name value : String) :
    (response.withHeader name value).header? name = some value := by
  have hothers : (response.headers.filter fun h => h.1 != name).lookup name = none := by
    rw [List.lookup_eq_none_iff]
    intro h hmem
    have hname : h.1 ≠ name := bne_iff_ne.mp (List.mem_filter.mp hmem).2
    exact bne_iff_ne.mpr hname.symm
  rw [Response.header?, Response.withHeader, List.lookup_append, hothers]
  simp

theorem status_ne_of_isSuccess {response : Response} (h : response.isSuccess = true) :
    response.status ≠ 500 := by
  intro hstatus
  rw [Response.isSuccess, hstatus] at h
  cases h

theorem Refusal.IsFailure.saysInternal {refusal : Refusal} (h : refusal.IsFailure)
    {scope : Option TraceId} (internal : (refusal.traced scope).response.status = 500) :
    SaysInternal scope (refusal.traced scope).response := by
  obtain ⟨⟨code, message, traceId, details⟩, rfl, hnone⟩ := h
  cases hnone
  rw [status_traced scope rfl] at internal
  cases code with
  | internalError =>
    cases scope with
    | none => exact ⟨rfl, rfl⟩
    | some id =>
      simp only [Refusal.traced, Option.map_some, Failure.withTraceId, Refusal.response, failureResponse,
        id.canHold_render, if_true]
      exact ⟨rfl, header?_withHeader _ _ _⟩
  | _ => cases internal

end Api

namespace Application

variable {σ τ : Type}

def backedBy (app : Application σ) (storage : Storage τ) (store : τ) : Application τ :=
  ⟨storage, app.world.backedBy store, app.interval, app.health, app.sockets⟩

/-- A request that is made at a time. It may be given a trace identifier, which is then told in its
response; should it open a socket, that has a name. -/
structure Visit where
  time : Instant
  traceId : Option TraceId
  socket : String
  request : Request

def visit (app : Application σ) (v : Visit) : Response × Application σ :=
  ((app.setClock v.time).connect v.socket v.traceId v.request).map
    (fun response => v.traceId.elim response fun id => traced id response) fun app => app

def afterVisits (app : Application σ) : List Visit → Application σ
  | [] => app
  | v :: earlier => ((app.afterVisits earlier).visit v).2

def responses (app : Application σ) : List Visit → List Response
  | [] => []
  | v :: earlier => ((app.afterVisits earlier).visit v).1 :: app.responses earlier

def AlikeOver (app : Application σ) (storage : Storage τ) (store : τ) : Prop :=
  Storage.Alike app.storage app.world.store storage store

variable {app : Application σ} {storage : Storage τ} {store : τ}

theorem AlikeOver.serve (alike : app.AlikeOver storage store) (scope : Option TraceId) (r : Request) :
    ∃ store', (app.backedBy storage store).serve scope r =
        ((app.serve scope r).1, (app.serve scope r).2.backedBy storage store') ∧
      (app.serve scope r).2.AlikeOver storage store' := by
  simp only [Application.serve]
  cases Route.find? r.method r.segments with
  | none =>
    refine ⟨store, ?_, ?_⟩ <;> dsimp only <;> split_ifs
    · rfl
    · rfl
    · exact alike
    · exact alike
  | some route =>
    obtain ⟨response, store', hrun, rfl, hstores⟩ :=
      (Route.serve_alike app.interval scope route r).run alike
    refine ⟨store', ?_, hstores⟩
    dsimp only [run, backedBy] at hrun ⊢
    rw [hrun]

theorem AlikeOver.connect (alike : app.AlikeOver storage store) (name : String) (scope : Option TraceId)
    (r : Request) :
    ∃ store', (app.backedBy storage store).connect name scope r =
        ((app.connect name scope r).1, (app.connect name scope r).2.backedBy storage store') ∧
      (app.connect name scope r).2.AlikeOver storage store' := by
  simp only [Application.connect]
  split
  · exact ⟨store, rfl, alike⟩
  · exact alike.serve scope r

theorem AlikeOver.visit (alike : app.AlikeOver storage store) (v : Visit) :
    ∃ store', (app.backedBy storage store).visit v =
        ((app.visit v).1, (app.visit v).2.backedBy storage store') ∧
      (app.visit v).2.AlikeOver storage store' := by
  have hclock : (app.setClock v.time).AlikeOver storage store := alike
  obtain ⟨store', hconnect, hstores⟩ := hclock.connect v.socket v.traceId v.request
  refine ⟨store', ?_, hstores⟩
  change Prod.map _ _ (((app.setClock v.time).backedBy storage store).connect v.socket v.traceId v.request) = _
  rw [hconnect]
  rfl

theorem AlikeOver.visits (alike : app.AlikeOver storage store) (visits : List Visit) :
    ∃ store', (app.backedBy storage store).responses visits = app.responses visits ∧
      (app.backedBy storage store).afterVisits visits = (app.afterVisits visits).backedBy storage store' ∧
      (app.afterVisits visits).AlikeOver storage store' := by
  induction visits with
  | nil => exact ⟨store, rfl, rfl, alike⟩
  | cons v earlier ih =>
    obtain ⟨store', hresponses, hafter, halike⟩ := ih
    obtain ⟨store'', hvisit, hnext⟩ := halike.visit v
    refine ⟨store'', ?_, ?_, hnext⟩
    · rw [responses, responses, hafter, hresponses, hvisit]
    · rw [afterVisits, afterVisits, hafter, hvisit]

theorem status_subscriptionResponse (scope : Option TraceId) (r : Request) :
    (subscriptionResponse scope r).status ≠ 500 := by
  rw [subscriptionResponse]
  cases admission r with
  | ok channels => exact nofun
  | error rejection =>
    cases rejection with
    | unknownChannel e =>
      dsimp only [Rejection.response]
      rw [Refusal.invalid, status_traced scope rfl]
      exact nofun
    | handshake fault => cases fault <;> exact nofun
    | _ => exact nofun

theorem status_respond? (h : Health) (r : Request) :
    ((h.respond? r.method r.segments).getD .notFound).status ≠ 500 := by
  have hprobe (healthy : Bool) : (Health.probe healthy).status ≠ 500 := by cases healthy <;> exact nofun
  rw [Health.respond?]
  split_ifs
  · exact nofun
  · exact hprobe h.ready
  · exact hprobe h.alive
  · exact nofun

theorem serve_saysInternal (app : Application σ) {scope : Option TraceId} {r : Request}
    (internal : (app.serve scope r).1.status = 500) : SaysInternal scope (app.serve scope r).1 := by
  cases hroute : Route.find? r.method r.segments with
  | none =>
    rw [serve, hroute] at internal
    dsimp only at internal
    split_ifs at internal
    · exact absurd internal (status_subscriptionResponse scope r)
    · exact absurd internal (status_respond? app.health r)
  | some route =>
    cases hbody : route.unreadBody? r with
    | some refusal =>
      rcases app.value_serve_unread scope hroute hbody with htext | ⟨reason, htext⟩ <;>
        rw [htext] at internal <;> cases internal
    | none =>
      rw [value_serve_route app scope hroute] at internal ⊢
      cases hresult : ((route.handle app.interval r).run.run app.storage app.world).1 with
      | ok reply =>
        rw [hresult] at internal
        exact absurd internal (status_ne_of_isSuccess (isSuccess_reply reply))
      | error refusal =>
        rw [hresult] at internal
        exact (Route.tells hbody σ app.storage app.world refusal hresult).saysInternal internal

theorem connect_saysInternal (app : Application σ) (name : String) {scope : Option TraceId} {r : Request}
    (internal : (app.connect name scope r).1.status = 500) :
    SaysInternal scope (app.connect name scope r).1 := by
  simp only [Application.connect] at internal ⊢
  split at internal
  · exact absurd internal (status_subscriptionResponse scope r)
  · exact app.serve_saysInternal internal

theorem visit_saysInternal (app : Application σ) {v : Visit} (internal : (app.visit v).1.status = 500) :
    SaysInternal v.traceId (app.visit v).1 := by
  obtain ⟨time, traceId, socket, request⟩ := v
  have hconnect : ((app.setClock time).connect socket traceId request).1.status = 500 →
      SaysInternal traceId ((app.setClock time).connect socket traceId request).1 :=
    (app.setClock time).connect_saysInternal socket
  cases traceId with
  | none => exact hconnect internal
  | some id => exact ⟨(hconnect internal).1, header?_withHeader _ _ _⟩

theorem responses_sayInternal (app : Application σ) (visits : List Visit) :
    List.Forall₂ (fun v response => response.status = 500 → SaysInternal v.traceId response) visits
      (app.responses visits) := by
  induction visits with
  | nil => exact .nil
  | cons v earlier ih => exact .cons (app.afterVisits earlier).visit_saysInternal ih

/-- Over two row stores that are alike an application answers any visits with the same responses, publishes
the same events and leaves the same to be received, whatever the stores say of the queries that they refuse.
A client is told of an internal error that there was one, and in the body and in a header the trace
identifier of the request, if it was given one. -/
theorem query_texts_undisclosed (app : Application σ) {storage : Storage τ} {store : τ}
    (alike : app.AlikeOver storage store) (visits : List Visit) :
    let other := app.backedBy storage store
    other.responses visits = app.responses visits ∧
    (other.afterVisits visits).world.published = (app.afterVisits visits).world.published ∧
    (other.afterVisits visits).world.bus = (app.afterVisits visits).world.bus ∧
    List.Forall₂ (fun v response => response.status = 500 → SaysInternal v.traceId response) visits
      (app.responses visits) := by
  intro other
  obtain ⟨store', hresponses, hafter, -⟩ := alike.visits visits
  refine ⟨hresponses, ?_, ?_, app.responses_sayInternal visits⟩
  · rw [hafter]
    rfl
  · rw [hafter]
    rfl

/-- The write of a throttle entry is refused, for either of two reasons, after a read that is not. -/
theorem query_texts_undisclosed_of_refused_write :
    let stored (text : String) : DisturbedStore := ⟨.empty, [⟨.throttle, .touch, .access (.query text)⟩]⟩
    let app := start DisturbedStore.storage (stored "disk full") .epoch 1000000000 256
    let v : Visit :=
      ⟨.epoch, some ⟨7⟩, "page", ⟨.post, "/api/v1/matches/7/stats-throttle/acquire", [], []⟩⟩
    app.AlikeOver DisturbedStore.storage (stored "no such table") ∧
      (app.backedBy DisturbedStore.storage (stored "no such table")).responses [v] = app.responses [v] ∧
      (app.visit v).1.status = 500 ∧ SaysInternal (some ⟨7⟩) (app.visit v).1 := by
  intro stored app v
  have halike : app.AlikeOver DisturbedStore.storage (stored "no such table") :=
    DisturbedStore.alike_reworded (fun _ => "no such table") (stored "disk full")
  have hroute : Route.find? v.request.method v.request.segments =
      some (.item .acquireThrottle "7") := by
    decide +kernel
  have hinteger : Text.integer? .i32 (Text.Percent.decodeText "7") = some 7 := by decide +kernel
  have hid : Input.id "7" = .ok 7 := by rw [Input.id, hinteger]
  have hplain : isSubscription v.request = false := by decide +kernel
  have hstatus : (app.visit v).1.status = 500 := by
    have hconnect : (app.setClock v.time).connect v.socket v.traceId v.request =
        (app.setClock v.time).serve v.traceId v.request := by
      rw [connect, hplain]
    change ((app.setClock v.time).connect v.socket v.traceId v.request).1.status = 500
    rw [hconnect, value_serve_route _ _ hroute, Route.handle, hid]
    exact status_failure v.traceId (.brokenQuery .throttle "disk full")
  obtain ⟨hresponses, -, -, hinternal⟩ := query_texts_undisclosed app halike [v]
  exact ⟨halike, hresponses, hstatus, (List.forall₂_cons.mp hinternal).1 hstatus⟩

end Application

end Matchday
