import Matchday.Api.Handler
import Matchday.Live.Gate
import Matchday.Live.Session
import Matchday.TraceId

set_option autoImplicit false

/-!
# The application

All parts put together over any row store: requests are routed to the endpoints, the probes or the
change feed, and sessions relay what is published to their clients.
-/
namespace Matchday

open Matchday.Http
open Matchday.Live

structure Health where
  ready : Bool
  alive : Bool
  deriving DecidableEq, Repr

namespace Health

def starting : Health := ⟨false, true⟩

def markReady (h : Health) : Health := { h with ready := true }

def markUnhealthy (h : Health) : Health := { h with alive := false }

def probe (healthy : Bool) : Response :=
  (Response.empty (if healthy then 200 else 503)).withHeader "cache-control" "no-store"

def respond? (h : Health) (method : Method) (segments : List String) : Option Response :=
  if method ≠ .get then none
  else if segments = ["health", "ready"] then some (probe h.ready)
  else if segments = ["health", "live"] then some (probe h.alive)
  else none

end Health

structure Application (σ : Type) where
  storage : Storage σ
  world : World σ
  interval : Duration
  health : Health
  sockets : List (String × Option Session)

namespace Application

variable {σ : Type}

def start (storage : Storage σ) (store : σ) (clock : Instant) (interval : Duration) (capacity : Nat) :
    Application σ where
  storage
  world := ⟨store, clock, .standard, [], .ofCapacity capacity⟩
  interval
  health := .starting
  sockets := []

def run {α : Type} (app : Application σ) (p : Prog α) : α × Application σ :=
  let (a, world) := p.run app.storage app.world
  (a, { app with world })

def setClock (app : Application σ) (now : Instant) : Application σ :=
  { app with world.clock := now }

def dropTrigger (app : Application σ) (t : WatchedTable) : Bool × Application σ :=
  let (dropped, feed) := app.world.feed.drop t
  (dropped, { app with world.feed := feed })

def publishedSince (app : Application σ) (n : Nat) : List (Channel × ChangeEvent) :=
  (app.world.published.take (app.world.published.length - n)).reverse

def isSubscription (r : Request) : Bool := r.method == .get && r.segments == feedPath

def subscriptionResponse (scope : Option TraceId) (r : Request) : Response :=
  match admission r with
  | .error rejection => rejection.response scope
  | .ok _ => .empty 101

/-- Answers a request within a scope that may have a trace identifier. -/
def serve (app : Application σ) (scope : Option TraceId) (r : Request) : Response × Application σ :=
  match Api.Route.find? r.method r.segments with
  | some route => app.run (route.serve app.interval scope r)
  | none =>
    if isSubscription r then (subscriptionResponse scope r, app)
    else ((app.health.respond? r.method r.segments).getD .notFound, app)

def traced (id : TraceId) (r : Response) : Response := r.withHeader TraceId.header id.render

def serveTraced (app : Application σ) (id : TraceId) (r : Request) : Response × Application σ :=
  (app.serve (some id) r).map (traced id) fun app => app

def session? (app : Application σ) (name : String) : Option Session :=
  (app.sockets.lookup name).join

def setSocket (app : Application σ) (name : String) (s : Option Session) : Application σ :=
  { app with sockets := (app.sockets.filter fun e => e.1 != name) ++ [(name, s)] }

def disconnect (app : Application σ) (name : String) : Application σ :=
  let bus := match app.session? name with
    | some s => app.world.bus.unsubscribe s.subscription
    | none => app.world.bus
  { app with world.bus := bus, sockets := app.sockets.filter fun e => e.1 != name }

/-- Opens a socket for a request that may have one, in the place of any other of its name; any other
request is answered. -/
def connect (app : Application σ) (name : String) (scope : Option TraceId) (r : Request) :
    Response × Application σ :=
  match isSubscription r, admission r with
  | true, .ok channels =>
    let app := app.disconnect name
    let (id, bus) := app.world.bus.subscribe channels
    (subscriptionResponse scope r, { app with world.bus := bus }.setSocket name (some ⟨id, .empty⟩))
  | _, _ => app.serve scope r

def hear (app : Application σ) (name : String) (input : Session.Input) :
    Option (List Sent) × Application σ :=
  match app.session? name with
  | none => (none, app)
  | some s =>
    let (sent, next) := s.receive input
    let bus := match next with
      | some _ => app.world.bus
      | none => app.world.bus.unsubscribe s.subscription
    (some sent, { app with world.bus := bus }.setSocket name next)

def relay (app : Application σ) (name : String) : List Sent × Application σ :=
  match app.session? name with
  | none => ([], app)
  | some s =>
    let (events, bus) := app.world.bus.drain s.subscription
    (Session.relay events, { app with world.bus := bus })

def relayAll (app : Application σ) : List (String × List Sent) × Application σ :=
  app.sockets.foldl
    (fun (acc, app) (name, _) =>
      let (sent, app) := app.relay name
      (acc ++ [(name, sent)], app))
    ([], app)

end Application

end Matchday
