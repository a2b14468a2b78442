import Matchday.Api.Refusal
import Matchday.Clock
import Matchday.Time.Rfc3339
import Matchday.Version

set_option autoImplicit false

namespace Matchday.Api.Field

open Matchday

def refuse (field message code : String) (value : Option String) : Refusal :=
  .invalid message
    ([("field", .str field), ("code", .str code)] ++ value.toList.map fun v => ("value", .str v))

def require {α : Type} (field : String) : Option α → Except Refusal α
  | some a => .ok a
  | none => .error (refuse field s!"missing required field: {field}" "missing_field" none)

def optional {α β : Type} (check : α → Except Refusal β) : Option α → Except Refusal (Option β)
  | some a => (check a).map some
  | none => .ok none

def timestamp (field text : String) : Except Refusal Instant :=
  match Rfc3339.parse? text with
  | some i => .ok i
  | none =>
    .error (refuse field s!"{field} must be an RFC 3339 timestamp" "invalid_timestamp" (some text))

def status (text : String) : Except Refusal ClockStatus :=
  match ClockStatus.ofName text with
  | .ok s => .ok s
  | .error _ =>
    .error (refuse "status" "status must be stopped, running or paused" "invalid_status" (some text))

def expectedVersion (n : Int) : Except Refusal Version :=
  match Version.ofInt n with
  | .ok v => .ok v
  | .error _ =>
    .error
      (refuse "expectedVersion" s!"expectedVersion must be between 1 and {greatestVersion}"
        "invalid_version" (some (toString n)))

end Matchday.Api.Field
