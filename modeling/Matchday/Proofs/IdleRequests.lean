import Matchday.Proofs.EventLog
import Matchday.Proofs.Restraint

set_option autoImplicit false

namespace Matchday

open Matchday.Api
open Matchday.Http
open Matchday.Service

namespace Spares

variable {α : Type} {P : α → Prop}

theorem ofInput {r : Except Refusal α} : Spares P (Handler.ofInput r) := of_done

theorem ofAction {a : Action α} (h : Spares P a) : Spares P (Handler.ofAction a) := by
  intro w
  have hrun : (Handler.ofAction a).run.run Store.storage w =
      ((a.run.run Store.storage w).1.mapError fun c => .failure c.failure,
        (a.run.run Store.storage w).2) := Prog.run_bind _ _ _ _
  rw [hrun]
  rcases h w with hsame | ⟨x, hx, hP⟩
  · exact .inl hsame
  · rw [hx]
    exact .inr ⟨x, rfl, hP⟩

theorem shown {a : Action α} (h : Spares (fun _ => False) a) (reply : α → Reply) :
    Spares (fun _ => False) (do let x ← Handler.ofAction a; pure (reply x)) :=
  (ofAction h).before fun _ => of_done

end Spares

namespace Api

theorem Handler.Runs.spares {performs : (c : Command) → (c.Result → Reply) → Prop}
    {h : Handler Reply} (runs : Runs performs h) : Spares (fun _ => True) h := by
  cases runs with
  | refused refusal => exact .of_done
  | ran c reply performed =>
    exact (Spares.ofAction (Spares.action c)).bind_returns fun x => .pure trivial

theorem ItemAction.spares_of_get {interval : Duration} {a : ItemAction} (id : Int) (r : Request)
    (h : a.method = .get) : Spares (fun _ => False) (a.handle interval id r) := by
  cases a with
  | getFixture => exact (Spares.getFixture id).shown _
  | getPart p => exact (Spares.getPart p id).shown _
  | getPartOf p => exact (Spares.getPartByMatch p id).shown _
  | getThrottle => exact (Spares.getThrottle id).shown _
  | _ => cases h

theorem spares_acquire (interval : Duration) (id : Int) (r : Request) :
    Spares (fun reply => ∃ record, reply = .shown (Showing.decision (.emit record)))
      (ItemAction.acquireThrottle.handle interval id r) := by
  refine (Spares.ofAction (Spares.acquireThrottle interval id)).bind (fun decision => .of_done) ?_
  rintro (record | ⟨last, wait⟩) hemit
  · exact .pure ⟨record, rfl⟩
  · cases hemit

theorem Route.serve_spares {interval : Duration} {route : Route} {r : Request} {P : Reply → Prop}
    (h : Spares P (route.handle interval r)) (scope : Option TraceId) (w : World Store) :
    ((route.serve interval scope r).run Store.storage w).2 = w ∨
      ∃ reply, ((route.serve interval scope r).run Store.storage w).1 = reply.response ∧ P reply := by
  rw [Route.serve, Prog.run_bind]
  rcases h w with hsame | ⟨reply, hreply, hP⟩
  · exact .inl hsame
  · rw [hreply]
    exact .inr ⟨reply, rfl, hP⟩

def Suppressed (r : Request) (response : Response) : Prop :=
  ∃ segment members, Route.find? r.method r.segments = some (.item .acquireThrottle segment) ∧
    response.body = .json (.obj members) ∧ members.lookup "emit" = some (.bool false)

end Api

namespace Application

/-- No success, nothing but a read, or a wait. -/
def Idle (r : Request) (response : Response) : Prop :=
  response.isSuccess = false ∨ r.method = .get ∨ Suppressed r response

theorem not_suppressed_of_emit (record : ThrottleRecord) :
    ¬∃ members, (Reply.shown (Showing.decision (.emit record))).response.body =
        .json (.obj members) ∧ members.lookup "emit" = some (.bool false) := by
  rintro ⟨members, hbody, hemit⟩
  cases hbody
  cases hemit

theorem serve_route_idle {interval : Duration} {scope : Option TraceId} {route : Route} {r : Request}
    {w : World Store} (found : Route.find? r.method r.segments = some route)
    (idle : Idle r ((route.serve interval scope r).run Store.storage w).1) :
    ((route.serve interval scope r).run Store.storage w).2 = w := by
  rcases idle with hfailed | hget | ⟨segment, members, hacquire, hbody, hemit⟩
  · rcases Route.serve_spares (runs_route interval route r).spares scope w with
      hsame | ⟨reply, hreply, -⟩
    · exact hsame
    · rw [hreply, isSuccess_reply] at hfailed
      cases hfailed
  · rw [hget] at found
    obtain ⟨a, segment, rfl, hmethod⟩ := Route.exists_item_of_get found
    have hspares : Spares (fun _ => False) ((Route.item a segment).handle interval r) :=
      .before .ofInput fun id => ItemAction.spares_of_get id r hmethod
    rcases Route.serve_spares hspares scope w with hsame | ⟨reply, -, hfalse⟩
    · exact hsame
    · exact hfalse.elim
  · rw [found] at hacquire
    cases hacquire
    have hspares : Spares (fun reply => ∃ record, reply = .shown (Showing.decision (.emit record)))
        ((Route.item .acquireThrottle segment).handle interval r) :=
      .before .ofInput fun id => spares_acquire interval id r
    rcases Route.serve_spares hspares scope w with hsame | ⟨reply, hreply, record, rfl⟩
    · exact hsame
    · rw [hreply] at hbody
      exact absurd ⟨members, hbody, hemit⟩ (not_suppressed_of_emit record)

/-- In whatever state an application over the store in memory is, an idle request leaves it so: rows,
ids, throttle entries, what has been published, and what each subscriber has still to receive. -/
theorem idle_request_changes_nothing (app : Application Store) (memory : app.storage = Store.storage)
    (scope : Option TraceId) (r : Request) (idle : Idle r (app.serve scope r).1) :
    (app.serve scope r).2 = app := by
  rw [Application.serve] at idle ⊢
  cases hroute : Route.find? r.method r.segments with
  | none => split_ifs <;> rfl
  | some route =>
    simp only [hroute, run, memory] at idle ⊢
    have hworld := serve_route_idle hroute idle
    rw [hworld, ← memory]

theorem idle_request_changes_nothing_of_wait :
    let app := (start Store.storage .empty .epoch 1000000000 256).after [.call (.touchThrottle 7 none)]
    let r : Request := ⟨.post, "/api/v1/matches/7/stats-throttle/acquire", [], []⟩
    app.storage = Store.storage ∧ Idle r (app.serve none r).1 ∧ (app.serve none r).2 = app := by
  intro app r
  have hroute : Route.find? r.method r.segments = some (.item .acquireThrottle "7") := by
    decide +kernel
  have hinteger : Text.integer? .i32 (Text.Percent.decodeText "7") = some 7 := by decide +kernel
  have hid : Input.id "7" = .ok 7 := by rw [Input.id, hinteger]
  have hresponse : (app.serve none r).1 =
      (Reply.shown (Showing.decision (.suppress .epoch 1000))).response := by
    rw [Application.serve, hroute]
    simp only [Route.serve, Route.handle, hid]
    rfl
  have hidle : Idle r (app.serve none r).1 := by
    rw [hresponse]
    exact .inr (.inr ⟨"7", _, hroute, rfl, rfl⟩)
  exact ⟨rfl, hidle, idle_request_changes_nothing app rfl none r hidle⟩

end Application

end Matchday
