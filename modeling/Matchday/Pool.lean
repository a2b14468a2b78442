import Matchday.Repository.Fault

set_option autoImplicit false

namespace Matchday

inductive PoolError
  | checkout (message : String)
  | build (message : String)
  deriving DecidableEq, Repr

def PoolError.message : PoolError → String
  | checkout message => s!"failed to get connection from pool: {message}"
  | build message => s!"failed to build connection pool: {message}"

inductive MigrationError
  | connection (message : String)
  | apply (message : String)
  | task (message : String)
  deriving DecidableEq, Repr

def MigrationError.message : MigrationError → String
  | connection message => s!"migration connection failed: {message}"
  | apply message => s!"migration failed: {message}"
  | task message => s!"migration task aborted: {message}"

def AccessFault.timedOut : AccessFault := .connection "Timed out in bb8"

/-- The sizes of a pool; no more connections are kept idle than there may be. -/
structure PoolConfig where
  databaseUrl : String
  maxSize : Nat
  minIdle : Option Nat
  timeoutMs : Nat
  deriving DecidableEq, Repr

namespace PoolConfig

def ofUrl (databaseUrl : String) : PoolConfig := ⟨databaseUrl, 10, some 2, 30000⟩

def withMaxSize (c : PoolConfig) (n : Nat) : PoolConfig :=
  { c with maxSize := max n 1, minIdle := c.minIdle.map fun idle => min idle (max n 1) }

def withMinIdle (c : PoolConfig) (n : Option Nat) : PoolConfig :=
  { c with minIdle := n.map fun idle => min idle c.maxSize }

def withTimeoutMs (c : PoolConfig) (ms : Nat) : PoolConfig := { c with timeoutMs := ms }

def fraction (digits : List Char) : List Char :=
  match (digits.reverse.dropWhile (· == '0')).reverse with
  | [] => []
  | ds => '.' :: ds

def durationText (ms : Nat) : String :=
  if ms = 0 then "0ns"
  else if ms < 1000 then s!"{ms}ms"
  else
    let digits := (toString (ms % 1000)).toList
    let padded := List.replicate (3 - digits.length) '0' ++ digits
    s!"{ms / 1000}" ++ String.ofList (fraction padded) ++ "s"

def idleText : Option Nat → String
  | some n => s!"Some({n})"
  | none => "None"

def description (c : PoolConfig) : String :=
  "PoolConfig \x7b database_url: \"<redacted>\", max_size: " ++ toString c.maxSize ++ ", min_idle: "
    ++ idleText c.minIdle ++ ", connection_timeout: " ++ durationText c.timeoutMs ++ " \x7d"

end PoolConfig

end Matchday
