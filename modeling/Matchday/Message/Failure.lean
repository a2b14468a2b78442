import Matchday.Failure
import Matchday.Json.Codec

set_option autoImplicit false

namespace Matchday

open Matchday.Json

def FailureCode.codec : Codec FailureCode := .variant all name

namespace Failure

def record : Record Failure where
  name := "Error"
  fields :=
    .required "code" FailureCode.codec <|
    .required "message" .string <|
    .optional "traceId" .string <|
    .optional "details" .json .nil
  toRow f := (f.code, f.message, f.traceId, f.details, ())
  ofRow := fun (code, message, traceId, details, _) => ⟨code, message, traceId, details⟩

end Failure

end Matchday
