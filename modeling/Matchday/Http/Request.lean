import Matchday.Text.Percent

set_option autoImplicit false

namespace Matchday.Http

open Matchday.Text

inductive Method
  | get
  | post
  | put
  | patch
  | delete
  | other (name : String)
  deriving DecidableEq, Repr

namespace Method

def name : Method → String
  | get => "GET"
  | post => "POST"
  | put => "PUT"
  | patch => "PATCH"
  | delete => "DELETE"
  | other name => name

def ofName (s : String) : Method :=
  ([get, post, put, patch, delete].find? fun m => m.name == s).getD (other s)

end Method

abbrev Header := String × List UInt8

structure Request where
  method : Method
  target : String
  headers : List Header
  body : List UInt8
  deriving DecidableEq, Repr

namespace Request

def afterAuthority (cs : List Char) : List Char :=
  match cs.dropWhile fun c => c.isAlphanum || c == '+' || c == '-' || c == '.' with
  | ':' :: '/' :: '/' :: rest => rest.dropWhile fun c => c != '/' && c != '?' && c != '#'
  | _ => cs

def location (r : Request) : List Char :=
  (afterAuthority r.target.toList).takeWhile (· != '#')

def isKept (b : UInt8) : Bool := b == 0x25 || b == 0x2f || b == 0x2b

def path (r : Request) : String :=
  let written := String.ofList (r.location.takeWhile (· != '?'))
  Utf8.lossy (Percent.decodeExcept isKept (Utf8.encode written))

def segments (r : Request) : List String :=
  ((r.path.toList.splitOn '/').map String.ofList).drop 1

def query (r : Request) : String := String.ofList ((r.location.dropWhile (· != '?')).drop 1)

/-- The values of a header in the order in which they stand; case does not matter in its name. -/
def headerValues (r : Request) (name : String) : List (List UInt8) :=
  (r.headers.filter fun h => h.1.toLower == name).map Prod.snd

def header? (r : Request) (name : String) : Option (List UInt8) := (r.headerValues name).head?

def readable? (value : List UInt8) : Option String :=
  if value.all fun b => b == 9 || (32 ≤ b.toNat && b.toNat < 127) then
    some (String.ofList (value.map fun b => Char.ofNat b.toNat))
  else none

def headerText? (r : Request) (name : String) : Option String := (r.header? name).bind readable?

end Request

end Matchday.Http
