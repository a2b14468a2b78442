import Matchday.Bus
import Matchday.Settings.CommandLine
import Matchday.Settings.Environment

set_option autoImplicit false

namespace Matchday

open Matchday.Text

structure Settings where
  bindAddr : Option String
  databaseUrl : Option String
  dbMaxConnections : Option Int
  skipMigrations : Bool
  channelCapacity : Option Int
  statsThrottleMs : Option Int
  deriving DecidableEq, Repr

namespace Settings

def defaultAddress : String := "0.0.0.0:8080"

def defaultConnections : Int := 10

def defaultThrottleMs : Int := 1000

def address (s : Settings) : String := s.bindAddr.getD defaultAddress

def database (s : Settings) : Option String := (s.databaseUrl.map trim).filter fun u => !u.isEmpty

def connections (s : Settings) : Int := s.dbMaxConnections.getD defaultConnections

def capacity (s : Settings) : Int := s.channelCapacity.getD Bus.defaultCapacity

def throttleMs (s : Settings) : Int := s.statsThrottleMs.getD defaultThrottleMs

def textOf (layer : SettingLayer) (s : Setting) : Option String :=
  match layer.lookup s with
  | some (.text t) => some t
  | _ => none

def numberOf (layer : SettingLayer) (s : Setting) : Option Int :=
  match layer.lookup s with
  | some (.number n) => some n
  | _ => none

def ofLayer? (layer : SettingLayer) : Option Settings :=
  if Setting.all.all fun s => (layer.lookup s).all fun v => v.fits s.kind then
    some
      { bindAddr := textOf layer .bindAddr
        databaseUrl := textOf layer .databaseUrl
        dbMaxConnections := numberOf layer .dbMaxConnections
        skipMigrations := layer.lookup .skipMigrations == some (.switch true)
        channelCapacity := numberOf layer .channelCapacity
        statsThrottleMs := numberOf layer .statsThrottleMs }
  else none

def load? (words : List String) (entries : List (String × String)) : Option Settings := do
  let layer ← CommandLine.layer? words
  ofLayer? (layer ++ Environment.layer entries)

end Settings

end Matchday
