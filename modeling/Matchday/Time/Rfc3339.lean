import Matchday.Time.Calendar
import Matchday.Time.Instant

set_option autoImplicit false

namespace Matchday.Rfc3339

open Matchday

def digit? (c : Char) : Option Nat := if c.isDigit then some (c.toNat - 48) else none

def digits : Nat → Nat → List Char → Option (Nat × List Char)
  | 0, acc, cs => some (acc, cs)
  | _ + 1, _, [] => none
  | n + 1, acc, c :: cs => (digit? c).bind fun d => digits n (acc * 10 + d) cs

def literal (x : Char) : List Char → Option (List Char)
  | [] => none
  | c :: cs => if c = x then some cs else none

def fractionDigits : Nat → Nat → List Char → Nat × List Char
  | _, acc, [] => (acc, [])
  | weight, acc, c :: cs =>
    match digit? c with
    | some d => fractionDigits (weight / 10) (acc + d * weight) cs
    | none => (acc, c :: cs)

def fraction : List Char → Option (Nat × List Char)
  | '.' :: c :: cs =>
    if c.isDigit then some (fractionDigits 100000000 0 (c :: cs)) else none
  | ['.'] => none
  | cs => some (0, cs)

def sign? (c : Char) : Option Int :=
  if c = '+' then some 1 else if c = '-' ∨ c = '\u2212' then some (-1) else none

def offset : List Char → Option (Int × List Char)
  | [] => none
  | c :: cs =>
    if c = 'Z' ∨ c = 'z' then some (0, cs)
    else do
      let sign ← sign? c
      let (hours, cs) ← digits 2 0 cs
      let cs ← literal ':' cs
      let (minutes, cs) ← digits 2 0 cs
      if hours < 24 ∧ minutes < 60 then some (sign * (hours * 3600 + minutes * 60), cs) else none

def timeOfDay : List Char → Option (List Char)
  | 'T' :: cs => some cs
  | 't' :: cs => some cs
  | ' ' :: cs => some cs
  | _ => none

def parse? (text : String) : Option Instant := do
  let (year, cs) ← digits 4 0 text.toList
  let cs ← literal '-' cs
  let (month, cs) ← digits 2 0 cs
  let cs ← literal '-' cs
  let (day, cs) ← digits 2 0 cs
  let cs ← timeOfDay cs
  let (hour, cs) ← digits 2 0 cs
  let cs ← literal ':' cs
  let (minute, cs) ← digits 2 0 cs
  let cs ← literal ':' cs
  let (second, cs) ← digits 2 0 cs
  let (nanos, cs) ← fraction cs
  let (east, cs) ← offset cs
  let date : Date := ⟨year, month, day⟩
  if cs.isEmpty ∧ date.Valid ∧ hour < 24 ∧ minute < 60 ∧ second ≤ 60 then
    let (second, nanos) := if second = 60 then (59, nanos + nanosPerSecond) else (second, nanos)
    some ⟨date.toDays * 86400 + hour * 3600 + minute * 60 + second - east, nanos⟩
  else none

def padded (width : Nat) (n : Nat) : String :=
  let s := toString n
  String.ofList (List.replicate (width - s.length) '0') ++ s

def year (y : Int) : String :=
  if 0 ≤ y ∧ y ≤ 9999 then padded 4 y.toNat
  else if y < 0 then "-" ++ padded 4 (-y).toNat
  else "+" ++ padded 4 y.toNat

/-- The shortest exact fraction of 0, 3, 6 or 9 digits. -/
def fractionText (nanos : Nat) : String :=
  if nanos = 0 then ""
  else if nanos % 1000000 = 0 then "." ++ padded 3 (nanos / 1000000)
  else if nanos % 1000 = 0 then "." ++ padded 6 (nanos / 1000)
  else "." ++ padded 9 nanos

def render (i : Instant) : String :=
  let date := Date.ofDays (i.seconds / 86400)
  let time := (i.seconds % 86400).toNat
  let (second, nanos) :=
    if i.isLeap then (time % 60 + 1, i.nanos - nanosPerSecond) else (time % 60, i.nanos)
  year date.year ++ "-" ++ padded 2 date.month.toNat ++ "-" ++ padded 2 date.day.toNat ++ "T"
    ++ padded 2 (time / 3600) ++ ":" ++ padded 2 (time / 60 % 60) ++ ":" ++ padded 2 second
    ++ fractionText nanos ++ "+00:00"

end Matchday.Rfc3339
