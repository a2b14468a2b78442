import Matchday.HostName.Mapping
import Matchday.Text.Composition
import Matchday.Text.Joining
import Matchday.Text.Punycode

set_option autoImplicit false

namespace Matchday.HostName

open Matchday.Text

def isForbidden (c : Char) : Bool :=
  c.toNat ≤ 32 || c.toNat == 127 || "#%/:<>?@[\\]^|".toList.contains c

def isAscii (cs : List Char) : Bool := cs.all fun c => c.toNat < 128

def joiner : Char := '\u200d'

def nonJoiner : Char := '\u200c'

def meets (side : Joining) (cs : List Char) : Bool :=
  match (cs.map Joining.of).find? (· != .transparent) with
  | some j => j == side || j == .both
  | none => false

/-- Whether a character may stand after those before it, nearest first, and before those after it:
one that joins or parts only after a mark that takes a vowel, or, if it parts, between letters that
would be joined. -/
def isInPlace (before : List Char) (c : Char) (after : List Char) : Bool :=
  if c = joiner ∨ c = nonJoiner then
    before.head?.any (fun d => combiningClass d == viramaClass)
      || (c == nonJoiner && meets .after before && meets .before after)
  else true

def joinersInPlace (before : List Char) : List Char → Bool
  | [] => true
  | c :: cs => isInPlace before c cs && joinersInPlace (c :: before) cs

def isWellFormed (label : List Char) : Bool :=
  !label.head?.any isMark && joinersInPlace [] label

def canonical? (cs : List Char) : Option (List Char) := (plainText? cs).map Composition.normalized

def encodedStart : List Char := "xn--".toList

def encodedLimit : Nat := 2000

def encodableLimit : Nat := 1000

/-- What Punycode stands for that a label may be written in. -/
def decoded? (encoded : List Char) : Option (List Char) :=
  if !isAscii encoded ∨ encoded.getLast? = some '-' ∨ encodedLimit < encoded.length then none
  else
    (Punycode.decode? encoded).filter fun text =>
      !isAscii text && canonical? text == some text && isWellFormed text

def label? (cs : List Char) : Option (List Char) := do
  let label ← canonical? cs
  if label.any isForbidden then none
  else if label.take encodedStart.length = encodedStart then
    decoded? (label.drop encodedStart.length)
  else if isAscii label then some label
  else if encodableLimit < label.length ∨ !isWellFormed label then none
  else some label

end Matchday.HostName
