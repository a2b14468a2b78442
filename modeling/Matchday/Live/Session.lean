import Matchday.Bus
import Matchday.Live.Frame
import Matchday.Message.Change

set_option autoImplicit false

/-!
# Sessions

A session relays what its subscription receives and answers its client: a ping with a pong, a close
with the same close. It ends with the client's close or silence, with an error of the client's, or
with the feed.
-/
namespace Matchday.Live

open Matchday

inductive Sent
  | change (frame : ChangeFrame)
  | pong (payload : List UInt8)
  | close (reason : Option CloseReason)
  | finished
  deriving DecidableEq, Repr

/-- A session listens on the bus and to its client until it is over. -/
structure Session where
  subscription : Nat
  inbox : Inbox
  deriving DecidableEq, Repr

namespace Session

inductive Input
  | bytes (b : List UInt8)
  | silence
  deriving DecidableEq, Repr

def protocolError : CloseReason := ⟨1002, some "protocol error"⟩

def feedClosed : CloseReason := ⟨1001, some "change feed closed"⟩

/-- Answers messages in turn, up to a close; says whether the session goes on. -/
def answer : List Message → List Sent × Bool
  | [] => ([], true)
  | .ping payload :: rest => ((answer rest).map (.pong payload :: ·) id)
  | .close reason :: _ => ([.close reason, .finished], false)
  | .noted :: rest => answer rest

/-- What a session sends in answer to its client, and the session if it goes on. -/
def receive (s : Session) : Input → List Sent × Option Session
  | .silence => ([.finished], none)
  | .bytes b =>
    match s.inbox.receive b with
    | none => ([.close (some protocolError), .finished], none)
    | some (messages, inbox) =>
      match answer messages with
      | (sent, true) => (sent, some { s with inbox })
      | (sent, false) => (sent, none)

def relay (events : List (Channel × ChangeEvent)) : List Sent :=
  events.map fun (c, e) => .change ⟨c, e⟩

/-- What a session sends when the feed is closed. -/
def farewell : List Sent := [.close (some feedClosed), .finished]

end Session

end Matchday.Live
