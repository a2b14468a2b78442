import Matchday.Json.Value

set_option autoImplicit false

namespace Matchday

inductive FailureCode
  | invalidRequest
  | notFound
  | conflict
  | serviceUnavailable
  | internalError
  deriving DecidableEq, Repr

namespace FailureCode

def all : List FailureCode := [invalidRequest, notFound, conflict, serviceUnavailable, internalError]

def name : FailureCode → String
  | invalidRequest => "invalid_request"
  | notFound => "not_found"
  | conflict => "conflict"
  | serviceUnavailable => "service_unavailable"
  | internalError => "internal_error"

end FailureCode

structure Failure where
  code : FailureCode
  message : String
  traceId : Option String := none
  details : Option Json := none
  deriving Repr

namespace Failure

def withTraceId (f : Failure) (id : Option String) : Failure :=
  match id with
  | some _ => { f with traceId := id }
  | none => f

/-- What may be shown to a client: of an internal error only that there was one. -/
def disclosed (f : Failure) : Failure :=
  match f.code with
  | .internalError => { code := .internalError, message := "Internal server error", traceId := f.traceId }
  | _ => f

end Failure

end Matchday
