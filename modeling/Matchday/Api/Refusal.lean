import Matchday.Http.Response
import Matchday.Message.Failure
import Matchday.TraceId

set_option autoImplicit false

namespace Matchday.Api

open Matchday
open Matchday.Http

inductive Refusal
  | failure (f : Failure)
  | oversized
  | unmeasured
  | unreadable (reason : String)
  deriving Repr

def statusOf : FailureCode → Nat
  | .invalidRequest => 400
  | .notFound => 404
  | .conflict => 409
  | .serviceUnavailable => 503
  | .internalError => 500

/-- The response to a failure; its trace identifier is also a header. One that no header can hold
leaves only the news of that. -/
def failureResponse (f : Failure) : Response :=
  let r := Response.of (statusOf f.code) (.json (Failure.record.encode f.disclosed))
  match f.traceId with
  | some id =>
    if Header.canHold id then r.withHeader TraceId.header id
    else Response.of 500 (.text "failed to parse header value")
  | none => r

namespace Refusal

def response : Refusal → Response
  | failure f => failureResponse f
  | oversized => .of 413 (.text "payload reached size limit")
  | unmeasured => .of 400 (.text "payload length is unknown")
  | unreadable reason => .of 400 (.text reason)

def traced (scope : Option TraceId) : Refusal → Refusal
  | failure f => failure (f.withTraceId (scope.map TraceId.render))
  | r => r

def invalid (message : String) (details : List (String × Json)) : Refusal :=
  .failure
    { code := .invalidRequest, message, details := some (Json.sortedObj details) }

end Refusal

end Matchday.Api
