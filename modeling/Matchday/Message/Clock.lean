import Matchday.Clock
import Matchday.Json.Codec
import Matchday.Version

set_option autoImplicit false

namespace Matchday

open Matchday.Json

def ClockStatus.codec : Codec ClockStatus := .variant all name

def Version.codec : Codec Version where
  encode v := .int v.number
  read cs := do
    let (n, cs) ← Codec.u32.read cs
    match Version.ofInt n with
    | .ok v => pure (v, cs)
    | .error e => throw (.refused e.message)

namespace Message

structure ClockTransition where
  expectedVersion : Option Int
  deriving DecidableEq, Repr

namespace ClockTransition

def record : Record ClockTransition where
  name := "ClockTransitionRequest"
  fields := .nullable "expectedVersion" .u32 .nil
  toRow m := (m.expectedVersion, ())
  ofRow := fun (expectedVersion, _) => ⟨expectedVersion⟩

def unconditional : ClockTransition := ⟨none⟩

end ClockTransition

end Message

end Matchday
