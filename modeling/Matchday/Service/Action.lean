import Matchday.Program
import Matchday.Service.Cause

set_option autoImplicit false

namespace Matchday

abbrev Action := ExceptT Cause Prog

namespace Action

variable {α ε : Type}

def ofProg (p : Prog α) : Action α := ExceptT.mk (p.bind fun a => .done (.ok a))

def ofExcept (f : ε → Cause) (r : Except ε α) : Action α := ExceptT.mk (.done (r.mapError f))

def fail (c : Cause) : Action α := ExceptT.mk (.done (.error c))

def ask (f : ε → Cause) (p : Prog (Except ε α)) : Action α :=
  ExceptT.mk (p.bind fun r => .done (r.mapError f))

def require (c : Cause) : Option α → Action α
  | some a => ofExcept id (.ok a)
  | none => fail c

def announce (change : RowChange) : Action Unit := ofProg (.announce change)

def time : Action Instant := ofProg .time

end Action

end Matchday
