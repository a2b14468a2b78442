import Matchday.Json.Codec
import Matchday.Throttle
import Matchday.Time.Rfc3339

set_option autoImplicit false

namespace Matchday.Message

open Matchday
open Matchday.Json

structure TouchThrottle where
  lastNotifiedAt : Option String
  deriving DecidableEq, Repr

namespace TouchThrottle

def record : Record TouchThrottle where
  name := "TouchThrottleRequest"
  fields := .nullable "lastNotifiedAt" .string .nil
  toRow m := (m.lastNotifiedAt, ())
  ofRow := fun (lastNotifiedAt, _) => ⟨lastNotifiedAt⟩

def now : TouchThrottle := ⟨none⟩

end TouchThrottle

structure ThrottleView where
  matchId : Int
  lastNotifiedAt : String
  deriving DecidableEq, Repr

namespace ThrottleView

def record : Record ThrottleView where
  name := "ThrottleResponse"
  fields :=
    .required "matchId" .i32 <|
    .required "lastNotifiedAt" .string .nil
  toRow m := (m.matchId, m.lastNotifiedAt, ())
  ofRow := fun (matchId, lastNotifiedAt, _) => ⟨matchId, lastNotifiedAt⟩

def ofRecord (r : ThrottleRecord) : ThrottleView := ⟨r.matchId, Rfc3339.render r.lastNotifiedAt⟩

end ThrottleView

structure AcquireView where
  emit : Bool
  lastNotifiedAt : String
  retryAfterMs : Option Int
  deriving DecidableEq, Repr

namespace AcquireView

def record : Record AcquireView where
  name := "AcquireResponse"
  fields :=
    .required "emit" .bool <|
    .required "lastNotifiedAt" .string <|
    .optional "retryAfterMs" .u64 .nil
  toRow m := (m.emit, m.lastNotifiedAt, m.retryAfterMs, ())
  ofRow := fun (emit, lastNotifiedAt, retryAfterMs, _) => ⟨emit, lastNotifiedAt, retryAfterMs⟩

def ofDecision : ThrottleDecision → AcquireView
  | .emit record => ⟨true, Rfc3339.render record.lastNotifiedAt, none⟩
  | .suppress last wait => ⟨false, Rfc3339.render last, some wait⟩

end AcquireView

end Matchday.Message
