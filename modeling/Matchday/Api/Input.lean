import Matchday.Api.Refusal
import Matchday.Http.ContentCoding
import Matchday.Http.MediaType
import Matchday.Json.Codec

set_option autoImplicit false

namespace Matchday.Api.Input

open Matchday
open Matchday.Http
open Matchday.Text

/-- The id in the path: its escapes have been decoded but for those that stay, and are now all
decoded. -/
def id (segment : String) : Except Refusal Int :=
  match integer? .i32 (Percent.decodeText segment) with
  | some n => .ok n
  | none =>
    .error
      (.invalid "path parameter must be an integer id"
        [("code", .str "invalid_path"),
          ("reason",
            .str s!"Path deserialize error: can not parse {Quoted.quote segment} to a i32")])

def invalidBody (reason : String) : Refusal :=
  .invalid "request body is not valid JSON for this endpoint"
    [("code", .str "invalid_body"), ("reason", .str reason)]

def messageLimit : Nat := 2097152

def optionalLimit : Nat := 262144

def declaredLength? (r : Request) : Option Int :=
  (r.headerText? "content-length").bind fun text => integer? .u64 (trim text)

def isJson (r : Request) : Bool :=
  ((r.headerText? "content-type").bind MediaType.parse?).any MediaType.isJson

def message {α : Type} (c : Json.Codec α) (r : Request) : Except Refusal α :=
  if !isJson r then .error (invalidBody "Content type error")
  else
    match (declaredLength? r).filter fun n => decide ((messageLimit : Int) < n) with
    | some n =>
      .error
        (invalidBody
          s!"JSON payload ({n} bytes) is larger than allowed (limit: {messageLimit} bytes).")
    | none =>
      match r.payload messageLimit with
      | .broken fault =>
        .error
          (invalidBody ("Error that occur during reading payload: " ++ unpackingFailure fault))
      | .tooLong => .error (invalidBody s!"JSON payload has exceeded limit ({messageLimit} bytes).")
      | .content bytes =>
        (c.ofBytes bytes).mapError fun e => invalidBody s!"Json deserialize error: {e.message}"

def isBlank (b : UInt8) : Bool := b == 32 || b == 9 || b == 10 || b == 12 || b == 13

/-- What a body holds that is short enough to be taken in whole. -/
def bounded (r : Request) : Except Refusal (List UInt8) := do
  if (r.header? "content-length").isSome then
    match declaredLength? r with
    | none => throw .unmeasured
    | some n => if optionalLimit < n then throw .oversized
  match r.payload optionalLimit with
  | .broken fault => throw (.unreadable (unpackingFailure fault))
  | .tooLong => throw .oversized
  | .content bytes => pure bytes

/-- The message in the body, or what stands for none. -/
def optionalMessage {α : Type} (c : Json.Codec α) (absent : α) (r : Request) : Except Refusal α := do
  let bytes ← bounded r
  if bytes.all isBlank then pure absent
  else (c.ofBytes bytes).mapError fun e => invalidBody e.message

end Matchday.Api.Input
