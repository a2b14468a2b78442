import Matchday.Api.Refusal
import Matchday.Change
import Matchday.Live.Handshake
import Matchday.Live.Origin
import Matchday.Text.Blank
import Matchday.TraceId

set_option autoImplicit false

namespace Matchday.Live

open Matchday
open Matchday.Http
open Matchday.Text

def feedPath : List String := ["ws", "changes"]

inductive Rejection
  | ambiguousQuery
  | missingOrigin
  | severalOrigins
  | unreadableOrigin
  | foreignOrigin
  | unknownChannel (e : UnknownChannel)
  | handshake (fault : Handshake.Fault)
  deriving DecidableEq, Repr

namespace Rejection

def response (scope : Option TraceId) : Rejection → Response
  | ambiguousQuery => .of 400 (.text "Query deserialize error: duplicate field `channels`")
  | missingOrigin => .of 403 (.text "Origin not allowed")
  | severalOrigins => .of 400 (.text "Invalid Origin header")
  | unreadableOrigin => .of 400 (.text "Invalid Origin header")
  | foreignOrigin => .of 403 (.text "Origin not allowed")
  | unknownChannel e =>
    let refusal := Api.Refusal.invalid e.message
      [("field", .str "channels"), ("value", .str e.name), ("code", .str "unknown_channel")]
    (refusal.traced scope).response
  | handshake .malformed => .empty 400
  | handshake .unsupportedVersion => .empty 426

end Rejection

def channelsOf (text : String) : Except UnknownChannel (List Channel) :=
  (((text.toList.splitOn ',').map trimChars).filter fun cs => !cs.isEmpty).mapM fun cs =>
    Channel.ofName (String.ofList cs)

def selection? (query : String) : Except Rejection (Option String) :=
  match (Percent.formPairs query).filter fun p => p.1 == "channels" with
  | [] => .ok none
  | [(_, text)] => .ok (some text)
  | _ => .error .ambiguousQuery

def checkOrigin (r : Request) : Except Rejection Unit :=
  match r.headerValues "origin" with
  | [] => .error .missingOrigin
  | [value] =>
    match (Request.readable? value).bind Origin.parse? with
    | none => .error .unreadableOrigin
    | some o => if o.isAllowed then .ok () else .error .foreignOrigin
  | _ => .error .severalOrigins

/-- The channels that a request may subscribe to; no channel means every channel. -/
def admission (r : Request) : Except Rejection (List Channel) := do
  let text ← selection? r.query
  checkOrigin r
  let channels ← (channelsOf (text.getD "")).mapError .unknownChannel
  (Handshake.check r).mapError .handshake
  pure channels

end Matchday.Live
