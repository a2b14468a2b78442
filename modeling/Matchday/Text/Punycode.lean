set_option autoImplicit false

/-!
# Punycode

A text with characters beyond ASCII, written in letters and digits: first its ASCII characters, then
where each of the others goes, in their order, as the distance from the one before it in numbers of
base 36 whose last digit is known by a threshold.
-/
namespace Matchday.Text.Punycode

def digit? (c : Char) : Option Nat :=
  let n := c.toNat
  if 97 ≤ n ∧ n ≤ 122 then some (n - 97)
  else if 65 ≤ n ∧ n ≤ 90 then some (n - 65)
  else if 48 ≤ n ∧ n ≤ 57 then some (n - 22)
  else none

def threshold (place bias : Nat) : Nat :=
  if place ≤ bias then 1 else if bias + 26 ≤ place then 26 else place - bias

def scaled (delta counted : Nat) : Nat :=
  if 455 < delta then scaled (delta / 35) (counted + 36)
  else counted + 36 * delta / (delta + 38)
termination_by delta
decreasing_by exact Nat.div_lt_self (by omega) (by omega)

def adapted (distance length : Nat) (isFirst : Bool) : Nat :=
  let damped := if isFirst then distance / 700 else distance / 2
  scaled (damped + damped / length) 0

/-- How far the distances have been read; `position` counts all places for characters, `started` is
what it was before the number that is being read. -/
structure Progress where
  text : List Char
  code : Nat
  bias : Nat
  position : Nat
  started : Nat
  weight : Nat
  place : Nat
  deriving DecidableEq, Repr

namespace Progress

def start (text : List Char) : Progress := ⟨text, 128, 72, 0, 0, 1, 36⟩

def placed? (p : Progress) : Option Progress :=
  let length := p.text.length + 1
  let code := p.code + p.position / length
  let at_ := p.position % length
  if code.isValidChar then
    some
      { text := p.text.take at_ ++ Char.ofNat code :: p.text.drop at_
        code
        bias := adapted (p.position - p.started) length (p.started == 0)
        position := at_ + 1
        started := at_ + 1
        weight := 1
        place := 36 }
  else none

def digit? (p : Progress) (d : Nat) : Option Progress :=
  let t := threshold p.place p.bias
  let p := { p with position := p.position + d * p.weight }
  if p.position ≥ Nat.pow 2 32 ∨ p.weight ≥ Nat.pow 2 32 then none
  else if d < t then p.placed?
  else some { p with weight := p.weight * (36 - t), place := p.place + 36 }

end Progress

def splitLast (cs : List Char) : List Char × List Char :=
  let after := (cs.reverse.takeWhile (· != '-')).reverse
  let before := cs.take (cs.length - after.length - 1)
  if before.isEmpty then ([], cs) else (before, after)

def decode? (cs : List Char) : Option (List Char) := do
  let (basic, distances) := splitLast cs
  let p ← distances.foldlM (fun p c => do p.digit? (← digit? c)) (Progress.start basic)
  if p.weight = 1 ∧ p.place = 36 then some p.text else none

end Matchday.Text.Punycode
