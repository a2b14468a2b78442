import Matchday.Proofs.Refusals
import Matchday.Proofs.Serving

set_option autoImplicit false

namespace Matchday

open Matchday.Api
open Matchday.Http

namespace Api

def Refusal.IsFailure (refusal : Refusal) : Prop := ∃ f : Failure, refusal = .failure f ∧ f.traceId = none

theorem Refusal.isFailure_invalid (message : String) (details : List (String × Json)) :
    (invalid message details).IsFailure := ⟨_, rfl, rfl⟩

theorem Refusal.isFailure_cause (cause : Cause) : (failure cause.failure).IsFailure :=
  ⟨cause.failure, rfl, by cases cause <;> rfl⟩

def Tells {α : Type} (r : Except Refusal α) : Prop := ∀ refusal, r = .error refusal → refusal.IsFailure

namespace Tells

variable {α β : Type} {r : Except Refusal α}

theorem ok (a : α) : Tells (.ok a) := nofun

theorem error {refusal : Refusal} (h : refusal.IsFailure) : Tells (.error refusal : Except Refusal α) := by
  rintro _ ⟨⟩
  exact h

theorem bind {f : α → Except Refusal β} (h : Tells r) (next : ∀ a, Tells (f a)) : Tells (r >>= f) := by
  cases r with
  | error refusal => exact error (h refusal rfl)
  | ok a => exact next a

theorem map {f : α → β} (h : Tells r) : Tells (r.map f) := by
  cases r with
  | error refusal => exact error (h refusal rfl)
  | ok a => exact ok (f a)

theorem mapError {ε : Type} {r : Except ε α} {f : ε → Refusal} (h : ∀ e, (f e).IsFailure) :
    Tells (r.mapError f) := by
  cases r with
  | error e => exact error (h e)
  | ok a => exact ok a

theorem require (field : String) (a : Option α) : Tells (Field.require field a) := by
  cases a with
  | none => exact error (Refusal.isFailure_invalid _ _)
  | some a => exact ok a

theorem optional {check : α → Except Refusal β} (h : ∀ a, Tells (check a)) (a : Option α) :
    Tells (Field.optional check a) := by
  cases a with
  | none => exact ok none
  | some a => exact (h a).map

theorem timestamp (field text : String) : Tells (Field.timestamp field text) := by
  rw [Field.timestamp]
  split
  · exact ok _
  · exact error (Refusal.isFailure_invalid _ _)

theorem status (text : String) : Tells (Field.status text) := by
  rw [Field.status]
  split
  · exact ok _
  · exact error (Refusal.isFailure_invalid _ _)

theorem expectedVersion (n : Int) : Tells (Field.expectedVersion n) := by
  rw [Field.expectedVersion]
  split
  · exact ok _
  · exact error (Refusal.isFailure_invalid _ _)

theorem id (segment : String) : Tells (Input.id segment) := by
  rw [Input.id]
  split
  · exact ok _
  · exact error (Refusal.isFailure_invalid _ _)

theorem message (c : Json.Codec α) (r : Request) : Tells (Input.message c r) := by
  rw [Input.message]
  split_ifs
  · exact error (Refusal.isFailure_invalid _ _)
  · split
    · exact error (Refusal.isFailure_invalid _ _)
    · split
      · exact error (Refusal.isFailure_invalid _ _)
      · exact error (Refusal.isFailure_invalid _ _)
      · exact mapError fun e => Refusal.isFailure_invalid _ _

theorem optionalMessage {c : Json.Codec α} {absent : α} {r : Request} {bytes : List UInt8}
    (taken : Input.bounded r = .ok bytes) : Tells (Input.optionalMessage c absent r) := by
  have hread : Input.optionalMessage c absent r =
      if bytes.all Input.isBlank then .ok absent
      else (c.ofBytes bytes).mapError fun e => Input.invalidBody e.message := by
    rw [Input.optionalMessage, taken]
    rfl
  rw [hread]
  split_ifs
  · exact ok absent
  · exact mapError fun e => Refusal.isFailure_invalid _ _

theorem fixtureDraft (m : Message.CreateFixture) : Tells (Reading.fixtureDraft m) :=
  (require _ _).bind fun _ => (require _ _).bind fun _ => (require _ _).bind fun _ =>
    (require _ _).bind fun _ => (optional (timestamp _) _).bind fun _ => ok _

theorem fixturePatch (m : Message.UpdateFixture) : Tells (Reading.fixturePatch m) :=
  (optional (timestamp _) _).bind fun _ => ok _

theorem scoreboardDraft (m : Message.CreateScoreboard) : Tells (Reading.scoreboardDraft m) :=
  (require _ _).bind fun _ => ok _

theorem gameClockDraft (m : Message.CreateGameClock) : Tells (Reading.gameClockDraft m) :=
  (require _ _).bind fun _ => (require _ _).bind fun _ => (optional status _).bind fun _ => ok _

theorem gameClockPatch (m : Message.UpdateGameClock) : Tells (Reading.gameClockPatch m) :=
  (optional status _).bind fun _ => (optional expectedVersion _).bind fun _ => ok _

theorem playClockDraft (m : Message.CreatePlayClock) : Tells (Reading.playClockDraft m) :=
  (require _ _).bind fun _ => (optional status _).bind fun _ => ok _

theorem playClockPatch (m : Message.UpdatePlayClock) : Tells (Reading.playClockPatch m) :=
  (optional status _).bind fun _ => (optional expectedVersion _).bind fun _ => ok _

theorem playClockStart (m : Message.StartPlayClock) : Tells (Reading.playClockStart m) :=
  (require _ _).bind fun _ => (optional expectedVersion _).bind fun _ => ok _

variable {request : Request} {bytes : List UInt8}

theorem transition (taken : Input.bounded request = .ok bytes) : Tells (Reading.transition request) :=
  (optionalMessage taken).bind fun _ => optional expectedVersion _

theorem notificationTime (taken : Input.bounded request = .ok bytes) :
    Tells (Reading.notificationTime request) :=
  (optionalMessage taken).bind fun _ => optional (timestamp _) _

end Tells

/-- A handler that fails only with failures, whoever answers its calls. -/
def Handler.Tells {α : Type} (h : Handler α) : Prop :=
  ∀ (σ : Type) (storage : Storage σ) (w : World σ) (refusal : Refusal),
    (h.run.run storage w).1 = .error refusal → refusal.IsFailure

namespace Handler.Tells

variable {α β : Type}

theorem pure (a : α) : Handler.Tells (Pure.pure a) := by
  rintro σ storage w refusal ⟨⟩

theorem ofAction (a : Action α) : (Handler.ofAction a).Tells := by
  intro σ storage w refusal h
  have hrun : ((Handler.ofAction a).run.run storage w).1 =
      (a.run.run storage w).1.mapError fun c => .failure c.failure :=
    congrArg Prod.fst (Prog.run_bind storage _ _ w)
  rw [hrun] at h
  cases hresult : (a.run.run storage w).1 with
  | error cause =>
    rw [hresult] at h
    cases h
    exact Refusal.isFailure_cause cause
  | ok x =>
    rw [hresult] at h
    cases h

theorem bind {h : Handler α} {f : α → Handler β} (tells : h.Tells) (next : ∀ a, (f a).Tells) :
    (h >>= f).Tells := by
  intro σ storage w refusal hrefusal
  change ((h.run.bind _).run storage w).1 = _ at hrefusal
  rw [Prog.run_bind] at hrefusal
  cases hresult : (h.run.run storage w).1 with
  | error e =>
    rw [hresult] at hrefusal
    cases hrefusal
    exact tells σ storage w refusal hresult
  | ok a =>
    rw [hresult] at hrefusal
    exact next a σ storage _ refusal hrefusal

theorem shown (a : Action α) (reply : α → Reply) :
    (do let x ← Handler.ofAction a; Pure.pure (reply x) : Handler Reply).Tells :=
  (ofAction a).bind fun _ => pure _

theorem input {r : Except Refusal α} {f : α → Handler β} (tells : Api.Tells r)
    (next : ∀ a, r = .ok a → (f a).Tells) : (Handler.ofInput r >>= f).Tells := by
  cases r with
  | error refusal =>
    rintro σ storage w _ ⟨⟩
    exact tells refusal rfl
  | ok a => exact next a rfl

end Handler.Tells

def ItemAction.takesOptional : ItemAction → Bool
  | startClock .game | pauseGameClock | resetGameClock | stopPlayClock | touchThrottle => true
  | _ => false

open Handler.Tells in
theorem Creation.tells (c : Creation) (r : Request) : (c.handle r).Tells := by
  cases c with
  | fixture => exact input (.message _ r) fun m _ => input (.fixtureDraft m) fun _ _ => shown _ _
  | part p =>
    cases p with
    | scoreboard => exact input (.message _ r) fun m _ => input (.scoreboardDraft m) fun _ _ => shown _ _
    | gameclock => exact input (.message _ r) fun m _ => input (.gameClockDraft m) fun _ _ => shown _ _
    | playclock => exact input (.message _ r) fun m _ => input (.playClockDraft m) fun _ _ => shown _ _

open Handler.Tells in
theorem tells_updatePart (p : Part) (id : Int) (r : Request) : (updatePart p id r).Tells := by
  cases p with
  | scoreboard => exact input (.message _ r) fun _ _ => ofAction _
  | gameclock => exact input (.message _ r) fun m _ => input (.gameClockPatch m) fun _ _ => ofAction _
  | playclock => exact input (.message _ r) fun m _ => input (.playClockPatch m) fun _ _ => ofAction _

open Handler.Tells in
theorem ItemAction.tells (interval : Duration) (a : ItemAction) (id : Int) {r : Request}
    (taken : a.takesOptional = true → ∃ bytes, Input.bounded r = .ok bytes) :
    (a.handle interval id r).Tells := by
  cases a with
  | getFixture => exact shown _ _
  | updateFixture => exact input (.message _ r) fun m _ => input (.fixturePatch m) fun _ _ => shown _ _
  | deleteFixture => exact shown _ _
  | getPart p => exact shown _ _
  | getPartOf p => exact shown _ _
  | updatePart p => exact (tells_updatePart p id r).bind fun _ => pure _
  | deletePart p => exact shown _ _
  | startClock k =>
    cases k with
    | game =>
      obtain ⟨bytes, htaken⟩ := taken rfl
      exact input (.transition htaken) fun _ _ => shown _ _
    | play => exact input (.message _ r) fun m _ => input (.playClockStart m) fun _ _ => shown _ _
  | pauseGameClock =>
    obtain ⟨bytes, htaken⟩ := taken rfl
    exact input (.transition htaken) fun _ _ => shown _ _
  | resetGameClock =>
    obtain ⟨bytes, htaken⟩ := taken rfl
    exact input (.transition htaken) fun _ _ => shown _ _
  | stopPlayClock =>
    obtain ⟨bytes, htaken⟩ := taken rfl
    exact input (.transition htaken) fun _ _ => shown _ _
  | getThrottle => exact shown _ _
  | touchThrottle =>
    obtain ⟨bytes, htaken⟩ := taken rfl
    exact input (.notificationTime htaken) fun _ _ => shown _ _
  | acquireThrottle => exact shown _ _
  | clearThrottle => exact (ofAction _).bind fun _ => pure _

theorem Input.bounded_eq_error {r : Request} {refusal : Refusal} (h : bounded r = .error refusal) :
    refusal = .oversized ∨ refusal = .unmeasured ∨ ∃ reason, refusal = .unreadable reason := by
  rw [bounded] at h
  split_ifs at h
  · split at h
    · cases h
      exact .inr (.inl rfl)
    · split_ifs at h
      · cases h
        exact .inl rfl
      · split at h <;> cases h
        · exact .inr (.inr ⟨_, rfl⟩)
        · exact .inl rfl
  · split at h <;> cases h
    · exact .inr (.inr ⟨_, rfl⟩)
    · exact .inl rfl

theorem ItemAction.handle_of_unread {interval : Duration} {a : ItemAction} {id : Int} {r : Request}
    {refusal : Refusal} (takes : a.takesOptional = true) (unread : Input.bounded r = .error refusal) :
    a.handle interval id r = Handler.ofInput (.error refusal) := by
  have htransition : Reading.transition r = .error refusal := by
    rw [Reading.transition, Input.optionalMessage, unread]
    rfl
  have htime : Reading.notificationTime r = .error refusal := by
    rw [Reading.notificationTime, Input.optionalMessage, unread]
    rfl
  cases a with
  | startClock k =>
    cases k with
    | game =>
      rw [handle, htransition]
      rfl
    | play => cases takes
  | pauseGameClock | resetGameClock | stopPlayClock =>
    rw [handle, htransition]
    rfl
  | touchThrottle =>
    rw [handle, htime]
    rfl
  | _ => cases takes

/-- Why the body of a request for a route is not taken in, where its message may be left out and its
path holds an id. -/
def Route.unreadBody? (route : Route) (r : Request) : Option Refusal :=
  match route with
  | create _ => none
  | item a segment =>
    match Input.id segment, Input.bounded r with
    | .ok _, .error refusal => if a.takesOptional then some refusal else none
    | _, _ => none

theorem Route.tells {interval : Duration} {route : Route} {r : Request}
    (taken : route.unreadBody? r = none) : (route.handle interval r).Tells := by
  cases route with
  | create c => exact c.tells r
  | item a segment =>
    refine Handler.Tells.input (.id segment) fun id hid => a.tells interval id fun htakes => ?_
    cases hbody : Input.bounded r with
    | ok bytes => exact ⟨bytes, rfl⟩
    | error refusal =>
      rw [unreadBody?, hid, hbody, htakes] at taken
      cases taken

theorem Route.handle_of_unread (interval : Duration) {route : Route} {r : Request} {refusal : Refusal}
    (unread : route.unreadBody? r = some refusal) :
    route.handle interval r = Handler.ofInput (.error refusal) ∧ Input.bounded r = .error refusal := by
  cases route with
  | create c => cases unread
  | item a segment =>
    rw [unreadBody?] at unread
    split at unread
    · next id e hid hbody =>
      split_ifs at unread with htakes
      cases unread
      exact ⟨(Route.handle_item hid).trans (ItemAction.handle_of_unread htakes hbody), hbody⟩
    · cases unread

theorem Input.response_of_bounded {r : Request} {refusal : Refusal}
    (unread : bounded r = .error refusal) (scope : Option TraceId) :
    (refusal.traced scope).response = .of 413 (.text "payload reached size limit") ∨
      ∃ reason, (refusal.traced scope).response = .of 400 (.text reason) := by
  rcases bounded_eq_error unread with rfl | rfl | ⟨reason, rfl⟩
  · exact .inl rfl
  · exact .inr ⟨_, rfl⟩
  · exact .inr ⟨reason, rfl⟩

end Api

namespace Application

variable {σ : Type}

theorem value_serve_route (app : Application σ) (scope : Option TraceId) {r : Request} {route : Route}
    (found : Route.find? r.method r.segments = some route) :
    (app.serve scope r).1 =
      match ((route.handle app.interval r).run.run app.storage app.world).1 with
      | .ok reply => reply.response
      | .error refusal => (refusal.traced scope).response := by
  simp only [serve, found, run, Route.serve, Prog.run_bind]
  rfl

theorem value_serve_unread (app : Application σ) (scope : Option TraceId) {r : Request} {route : Route}
    {refusal : Refusal} (found : Route.find? r.method r.segments = some route)
    (unread : route.unreadBody? r = some refusal) :
    (app.serve scope r).1 = .of 413 (.text "payload reached size limit") ∨
      ∃ reason, (app.serve scope r).1 = .of 400 (.text reason) := by
  obtain ⟨hhandle, hbody⟩ := Route.handle_of_unread app.interval unread
  have hresponse : (app.serve scope r).1 = (refusal.traced scope).response := by
    rw [value_serve_route app scope found, hhandle]
    rfl
  rw [hresponse]
  exact Input.response_of_bounded hbody scope

example :
    let r : Request := ⟨.put, "/api/v1/matches/1/stats-throttle",
      [("Content-Encoding", Text.Utf8.encode "br")], [0x7b, 0x7d]⟩
    ((Route.item .touchThrottle "1").unreadBody? r).isSome = true := by
  decide +kernel

end Application

end Matchday
