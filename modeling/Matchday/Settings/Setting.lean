import Matchday.Text.Integer

set_option autoImplicit false

namespace Matchday

open Matchday.Text

inductive Setting
  | bindAddr
  | databaseUrl
  | dbMaxConnections
  | skipMigrations
  | channelCapacity
  | statsThrottleMs
  deriving DecidableEq, Repr

/-- What a setting is set to. -/
inductive SettingKind
  | text
  | number (r : IntRange)
  | switch
  deriving DecidableEq, Repr

namespace Setting

def all : List Setting :=
  [bindAddr, databaseUrl, dbMaxConnections, skipMigrations, channelCapacity, statsThrottleMs]

def kind : Setting → SettingKind
  | bindAddr => .text
  | databaseUrl => .text
  | dbMaxConnections => .number .u32
  | skipMigrations => .switch
  | channelCapacity => .number .u64
  | statsThrottleMs => .number .u64

def option : Setting → String
  | bindAddr => "bind-addr"
  | databaseUrl => "database-url"
  | dbMaxConnections => "db-max-connections"
  | skipMigrations => "skip-migrations"
  | channelCapacity => "channel-capacity"
  | statsThrottleMs => "stats-throttle-ms"

def letter : Setting → Char
  | bindAddr => 'b'
  | databaseUrl => 'd'
  | dbMaxConnections => 'D'
  | skipMigrations => 's'
  | channelCapacity => 'c'
  | statsThrottleMs => 'S'

def key : Setting → String
  | bindAddr => "bind_addr"
  | databaseUrl => "database_url"
  | dbMaxConnections => "db_max_connections"
  | skipMigrations => "skip_migrations"
  | channelCapacity => "channel_capacity"
  | statsThrottleMs => "stats_throttle_ms"

end Setting

inductive SettingValue
  | text (s : String)
  | number (n : Int)
  | switch (on : Bool)
  | unbounded
  /-- A fraction, a list or a table, which no setting is. -/
  | alien
  deriving DecidableEq, Repr

def SettingValue.fits : SettingValue → SettingKind → Bool
  | text _, .text => true
  | number n, .number r => r.contains n
  | switch _, .switch => true
  | unbounded, .switch => false
  | unbounded, _ => true
  | _, _ => false

abbrev SettingLayer := List (Setting × SettingValue)

end Matchday
