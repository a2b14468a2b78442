import Matchday.Http.Request
import Matchday.Text.Blank

set_option autoImplicit false

namespace Matchday.Live.Handshake

open Matchday.Http
open Matchday.Text

inductive Fault
  | malformed
  | unsupportedVersion
  deriving DecidableEq, Repr

def sixBits? (c : Char) : Option Nat :=
  let n := c.toNat
  if 65 ≤ n ∧ n ≤ 90 then some (n - 65)
  else if 97 ≤ n ∧ n ≤ 122 then some (n - 71)
  else if 48 ≤ n ∧ n ≤ 57 then some (n + 4)
  else if c = '+' then some 62
  else if c = '/' then some 63
  else none

def isKey (text : String) : Bool :=
  let cs := text.toList
  match (cs.take 22).mapM sixBits? with
  | some values =>
    values.length == 22 && values.getLast?.any (· % 16 == 0) && cs.drop 22 == ['=', '=']
  | none => false

example : isKey "dGhlIHNhbXBsZSBub25jZQ==" = true ∧ isKey "dGhlIHNhbXBsZSBub25jZR==" = false := by
  decide +kernel

/-- Whether a word stands anywhere in a text. -/
def contains (word : List Char) : List Char → Bool
  | [] => word.isEmpty
  | c :: cs => word.isPrefixOf (c :: cs) || contains word cs

def namesSocket (r : Request) : Bool :=
  (r.headerText? "upgrade").any fun t => contains "websocket".toList t.toLower.toList

def connectionOptions (r : Request) : List String :=
  (r.headerValues "connection").flatMap fun value =>
    ((Request.readable? value).getD "").toList.splitOn ',' |>.map fun cs =>
      String.ofList ((trimChars cs).map Char.toLower)

/-- Whether the connection is to be upgraded and not, before that is said, to be closed. -/
def asksUpgrade (r : Request) : Bool :=
  (connectionOptions r).find? (fun o => o == "upgrade" || o == "close") == some "upgrade"

def version : String := "13"

def check (r : Request) : Except Fault Unit := do
  if !namesSocket r then throw .malformed
  if !asksUpgrade r then throw .malformed
  match r.header? "sec-websocket-version" with
  | none => throw .malformed
  | some value => if value ≠ Utf8.encode version then throw .unsupportedVersion
  if !(r.headerText? "sec-websocket-key").any isKey then throw .malformed

end Matchday.Live.Handshake
