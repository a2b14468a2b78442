import Matchday.Json.Value
import Matchday.Text.Quoted
import Matchday.Text.Utf8

set_option autoImplicit false

/-!
# Reading JSON text

A reader takes a value from the front of a text and leaves the rest. Reading stops at the first
thing that is wrong, which is either the text itself or a value of the wrong kind. Strings must be
made of readable characters; values that nobody asks for are only checked for their form.
-/
namespace Matchday.Json

open Matchday.Text

/-- What stands in a text where a value is expected; of a sequence or a map, just its opening. -/
inductive Found
  | null
  | bool (b : Bool)
  | int (n : Int)
  | float (x : Binary64)
  | str (s : String)
  | sequence
  | map
  deriving DecidableEq, Repr

def Found.text : Found → String
  | .null => "null"
  | .bool b => s!"boolean `{b}`"
  | .int n => s!"integer `{n}`"
  | .float x => s!"floating point `{String.ofList (Shortest.write x)}`"
  | .str s => "string " ++ Quoted.quote s
  | .sequence => "sequence"
  | .map => "map"

inductive ReadError
  | malformed
  | invalidType (found : Found) (expected : String)
  | invalidValue (number : Int) (expected : String)
  | invalidLength (length : Nat) (expected : String)
  | missingField (name : String)
  | duplicateField (name : String)
  | unknownVariant (name : String) (known : List String)
  | refused (reason : String)
  deriving DecidableEq, Repr

namespace ReadError

def message : ReadError → String
  | malformed => "<malformed JSON>"
  | invalidType found expected => s!"invalid type: {found.text}, expected {expected}"
  | invalidValue number expected => s!"invalid value: integer `{number}`, expected {expected}"
  | invalidLength length expected => s!"invalid length {length}, expected {expected}"
  | missingField name => s!"missing field `{name}`"
  | duplicateField name => s!"duplicate field `{name}`"
  | unknownVariant name known =>
    s!"unknown variant `{name}`, expected one of " ++ ", ".intercalate (known.map fun k => s!"`{k}`")
  | refused reason => reason

end ReadError

/-- Takes a value from the front and leaves the rest. -/
abbrev Reader (α : Type) := List Symbol → Except ReadError (α × List Symbol)

namespace Read

def isBlank (c : Char) : Bool := c == ' ' || c == '\t' || c == '\n' || c == '\r'

def blanks : List Symbol → List Symbol
  | some c :: cs => if isBlank c then blanks cs else some c :: cs
  | cs => cs

def word {α : Type} (a : α) : List Char → List Symbol → Except ReadError (α × List Symbol)
  | [], cs => .ok (a, cs)
  | x :: xs, some c :: cs => if c = x then word a xs cs else .error .malformed
  | _ :: _, _ => .error .malformed

def mark (x : Char) (cs : List Symbol) : Except ReadError (List Symbol) :=
  match blanks cs with
  | some c :: cs => if c = x then .ok cs else .error .malformed
  | _ => .error .malformed

def hexValue? (c : Char) : Option Nat :=
  let n := c.toNat
  if c.isDigit then some (n - 48)
  else if 97 ≤ n ∧ n ≤ 102 then some (n - 87)
  else if 65 ≤ n ∧ n ≤ 70 then some (n - 55)
  else none

def hex4? : List Symbol → Option Nat
  | some a :: some b :: some c :: some d :: _ => do
    let a ← hexValue? a
    let b ← hexValue? b
    let c ← hexValue? c
    let d ← hexValue? d
    pure (((a * 16 + b) * 16 + c) * 16 + d)
  | _ => none

/-- The character of a `\u` escape and the number of symbols it takes; a high surrogate needs a low
one after it. -/
def codePoint? (cs : List Symbol) : Option (Char × Nat) := do
  let n ← hex4? cs
  if 0xdc00 ≤ n ∧ n ≤ 0xdfff then none
  else if 0xd800 ≤ n ∧ n ≤ 0xdbff then
    match cs.drop 4 with
    | some '\\' :: some 'u' :: cs => do
      let m ← hex4? cs
      if 0xdc00 ≤ m ∧ m ≤ 0xdfff then
        some (Char.ofNat (0x10000 + (n - 0xd800) * 0x400 + (m - 0xdc00)), 10)
      else none
    | _ => none
  else some (Char.ofNat n, 4)

def unescape? (c : Char) : Option Char :=
  if c = '"' then some '"'
  else if c = '\\' then some '\\'
  else if c = '/' then some '/'
  else if c = 'b' then some '\x08'
  else if c = 'f' then some '\x0c'
  else if c = 'n' then some '\n'
  else if c = 'r' then some '\r'
  else if c = 't' then some '\t'
  else none

def stringFrom (acc : List Char) : List Symbol → Except ReadError (String × List Symbol)
  | [] => .error .malformed
  | none :: _ => .error .malformed
  | some '\\' :: some 'u' :: cs =>
    match codePoint? cs with
    | some (c, taken) => stringFrom (c :: acc) (cs.drop taken)
    | none => .error .malformed
  | some '\\' :: some e :: cs =>
    match unescape? e with
    | some c => stringFrom (c :: acc) cs
    | none => .error .malformed
  | some '"' :: cs => .ok (String.ofList acc.reverse, cs)
  | some c :: cs => if c.toNat < 32 ∨ c = '\\' then .error .malformed else stringFrom (c :: acc) cs
  termination_by cs => cs.length
  decreasing_by all_goals simp +arith

def string (cs : List Symbol) : Except ReadError (String × List Symbol) := stringFrom [] cs

def greatestSignificand : Nat := 18446744073709551615

def exponentLimit : Nat := 2147483648

def startsWithDigit : List Symbol → Bool
  | some c :: _ => c.isDigit
  | _ => false

/-- Digits taken into a significand while it stays in range: the significand, how many were taken,
and the rest. -/
def significand (acc taken : Nat) : List Symbol → Nat × Nat × List Symbol
  | some c :: cs =>
    let n := acc * 10 + (c.toNat - 48)
    if c.isDigit ∧ n ≤ greatestSignificand then significand n (taken + 1) cs
    else (acc, taken, some c :: cs)
  | cs => (acc, taken, cs)

def passDigits (passed : Nat) : List Symbol → Nat × List Symbol
  | some c :: cs => if c.isDigit then passDigits (passed + 1) cs else (passed, some c :: cs)
  | cs => (passed, cs)

def exponentDigits (acc : Nat) : List Symbol → Nat × List Symbol
  | some c :: cs =>
    if c.isDigit then exponentDigits (min (acc * 10 + (c.toNat - 48)) exponentLimit) cs
    else (acc, some c :: cs)
  | cs => (acc, cs)

def scaled? (m : Nat) (exponent : Int) : Option Binary64 := do
  let x ← Binary64.ofNat? m
  if exponent < 0 then x.scaleDown? (-exponent).toNat
  else if exponent.toNat ≤ Binary64.greatestPower then x.scaleUp? exponent.toNat
  else if m = 0 then some x
  else none

def double (negative : Bool) (m : Nat) (exponent : Int) (cs : List Symbol) : Except ReadError (Found × List Symbol) :=
  match scaled? m exponent with
  | some x => .ok (.float (if negative then x.neg else x), cs)
  | none => .error .malformed

def exponentSign : List Symbol → Bool × List Symbol
  | some '+' :: cs => (false, cs)
  | some '-' :: cs => (true, cs)
  | cs => (false, cs)

def exponentPart (negative : Bool) (m : Nat) (exponent : Int) (cs : List Symbol) : Except ReadError (Found × List Symbol) :=
  let (down, cs) := exponentSign cs
  if startsWithDigit cs then
    let (n, cs) := exponentDigits 0 cs
    if n = exponentLimit then
      if m ≠ 0 ∧ !down then .error .malformed else double negative 0 0 cs
    else double negative m (if down then exponent - n else exponent + n) cs
  else .error .malformed

def realPart (negative : Bool) (m : Nat) (exponent : Int) : List Symbol → Except ReadError (Found × List Symbol)
  | some 'e' :: cs => exponentPart negative m exponent cs
  | some 'E' :: cs => exponentPart negative m exponent cs
  | cs => double negative m exponent cs

def fractionPart (negative : Bool) (m : Nat) (exponent : Int) (cs : List Symbol) : Except ReadError (Found × List Symbol) :=
  let (m, taken, cs) := significand m 0 cs
  let (passed, cs) := passDigits 0 cs
  if taken + passed = 0 then .error .malformed
  else realPart negative m (exponent - taken) cs

/-- The number of a significand that stands alone; minus zero and what is out of range of 64 bits
are doubles. -/
def wholeNumber (negative : Bool) (m : Nat) (cs : List Symbol) : Except ReadError (Found × List Symbol) :=
  if !negative then .ok (.int m, cs)
  else if m = 0 ∨ 9223372036854775808 < m then double true m 0 cs
  else .ok (.int (-m), cs)

def afterDigits (negative : Bool) (m passed : Nat) : List Symbol → Except ReadError (Found × List Symbol)
  | some '.' :: cs => fractionPart negative m passed cs
  | some 'e' :: cs => exponentPart negative m passed cs
  | some 'E' :: cs => exponentPart negative m passed cs
  | cs => if passed = 0 then wholeNumber negative m cs else double negative m passed cs

def number (negative : Bool) (cs : List Symbol) : Except ReadError (Found × List Symbol) :=
  if startsWithDigit cs then
    match cs with
    | some '0' :: cs => if startsWithDigit cs then .error .malformed else afterDigits negative 0 0 cs
    | cs =>
      let (m, _, cs) := significand 0 0 cs
      let (passed, cs) := passDigits 0 cs
      afterDigits negative m passed cs
  else .error .malformed

/-- What stands at the front; all but sequences and maps are read whole. -/
def found (cs : List Symbol) : Except ReadError (Found × List Symbol) :=
  match blanks cs with
  | some '"' :: cs => (string cs).map fun (s, cs) => (.str s, cs)
  | some '[' :: cs => .ok (.sequence, cs)
  | some '{' :: cs => .ok (.map, cs)
  | some 'n' :: cs => word .null ['u', 'l', 'l'] cs
  | some 't' :: cs => word (.bool true) ['r', 'u', 'e'] cs
  | some 'f' :: cs => word (.bool false) ['a', 'l', 's', 'e'] cs
  | some '-' :: cs => number true cs
  | cs => number false cs

def nextItem (first : Bool) (cs : List Symbol) : Except ReadError (Option (List Symbol)) :=
  match blanks cs with
  | some ']' :: _ => .ok none
  | some ',' :: cs =>
    if first then .ok (some (some ',' :: cs))
    else
      match blanks cs with
      | some ']' :: _ => .error .malformed
      | cs => .ok (some cs)
  | cs => if first then .ok (some cs) else .error .malformed

def nextKey (first : Bool) (cs : List Symbol) : Except ReadError (Option (String × List Symbol)) :=
  match blanks cs with
  | some '}' :: _ => .ok none
  | some '"' :: cs => if first then (string cs).map some else .error .malformed
  | some ',' :: cs =>
    if first then .error .malformed
    else
      match blanks cs with
      | some '"' :: cs => (string cs).map some
      | _ => .error .malformed
  | _ => .error .malformed

def items (one : Reader Json) : Nat → Bool → List Json → Reader (List Json)
  | 0, _, _, _ => .error .malformed
  | fuel + 1, first, acc, cs =>
    match nextItem first cs with
    | .error e => .error e
    | .ok none => (mark ']' cs).map fun cs => (acc.reverse, cs)
    | .ok (some cs) =>
      match one cs with
      | .error e => .error e
      | .ok (x, cs) => items one fuel false (x :: acc) cs

def keyed {α : Type} (one : Reader α) : Reader α := fun cs => do one (← mark ':' cs)

def members (one : Reader Json) : Nat → Bool → List (String × Json) → Reader (List (String × Json))
  | 0, _, _, _ => .error .malformed
  | fuel + 1, first, acc, cs =>
    match nextKey first cs with
    | .error e => .error e
    | .ok none => (mark '}' cs).map fun cs => (acc.reverse, cs)
    | .ok (some (k, cs)) =>
      match keyed one cs with
      | .error e => .error e
      | .ok (x, cs) => members one fuel false ((k, x) :: acc) cs

def nestingLimit : Nat := 127

/-- A value of at most so many levels; the keys of its maps are sorted and the last member of a key
counts. -/
def value (depth : Nat) (cs : List Symbol) : Except ReadError (Json × List Symbol) :=
  match found cs with
  | .error e => .error e
  | .ok (.null, cs) => .ok (.null, cs)
  | .ok (.bool b, cs) => .ok (.bool b, cs)
  | .ok (.int n, cs) => .ok (.int n, cs)
  | .ok (.float x, cs) => .ok (.float x, cs)
  | .ok (.str s, cs) => .ok (.str s, cs)
  | .ok (.sequence, cs) =>
    match depth with
    | 0 => .error .malformed
    | depth + 1 => (items (value depth) (cs.length + 1) true [] cs).map fun (xs, cs) => (.arr xs, cs)
  | .ok (.map, cs) =>
    match depth with
    | 0 => .error .malformed
    | depth + 1 =>
      (members (value depth) (cs.length + 1) true [] cs).map fun (ms, cs) => (sortedObj ms, cs)

def passString : List Symbol → Except ReadError (List Symbol)
  | [] => .error .malformed
  | none :: cs => passString cs
  | some '"' :: cs => .ok cs
  | some '\\' :: some 'u' :: cs =>
    if (hex4? cs).isSome then passString (cs.drop 4) else .error .malformed
  | some '\\' :: some e :: cs => if (unescape? e).isSome then passString cs else .error .malformed
  | some c :: cs => if c.toNat < 32 ∨ c = '\\' then .error .malformed else passString cs
  termination_by cs => cs.length
  decreasing_by all_goals simp +arith

def passSomeDigits (cs : List Symbol) : Except ReadError (List Symbol) :=
  if startsWithDigit cs then .ok (passDigits 0 cs).2 else .error .malformed

def passExponent : List Symbol → Except ReadError (List Symbol)
  | some 'e' :: cs => passSomeDigits (exponentSign cs).2
  | some 'E' :: cs => passSomeDigits (exponentSign cs).2
  | cs => .ok cs

def passNumber (cs : List Symbol) : Except ReadError (List Symbol) := do
  let rest ← passSomeDigits cs
  let leadingZero := match cs with
    | some '0' :: cs => startsWithDigit cs
    | _ => false
  if leadingZero then .error .malformed
  else
    match rest with
    | some '.' :: cs => do passExponent (← passSomeDigits cs)
    | cs => passExponent cs

inductive Enclosure
  | sequence
  | map
  deriving DecidableEq, Repr

def passKey (cs : List Symbol) : Except ReadError (List Symbol) := do
  let cs ← mark '"' cs
  let cs ← passString cs
  mark ':' cs

/-- After a value: closes what ends here, and says whether and within what another value follows. -/
def passClosing : List Enclosure → List Symbol →
    Except ReadError (Option (List Enclosure) × List Symbol)
  | [], cs => .ok (none, cs)
  | e :: outer, cs =>
    match e, blanks cs with
    | .sequence, some ']' :: cs => passClosing outer cs
    | .map, some '}' :: cs => passClosing outer cs
    | .sequence, some ',' :: cs => .ok (some (e :: outer), cs)
    | .map, some ',' :: cs => (passKey cs).map fun cs => (some (e :: outer), cs)
    | _, _ => .error .malformed

/-- The front of a value: the enclosures around what comes next, and whether that is a value or what
follows one. -/
def passOpening (outer : List Enclosure) (cs : List Symbol) :
    Except ReadError (Bool × List Enclosure × List Symbol) :=
  match blanks cs with
  | some '[' :: cs =>
    match blanks cs with
    | some ']' :: cs => .ok (false, outer, cs)
    | cs => .ok (true, .sequence :: outer, cs)
  | some '{' :: cs =>
    match blanks cs with
    | some '}' :: cs => .ok (false, outer, cs)
    | cs => (passKey cs).map fun cs => (true, .map :: outer, cs)
  | some '"' :: cs => (passString cs).map fun cs => (false, outer, cs)
  | some 'n' :: cs => (word () ['u', 'l', 'l'] cs).map fun r => (false, outer, r.2)
  | some 't' :: cs => (word () ['r', 'u', 'e'] cs).map fun r => (false, outer, r.2)
  | some 'f' :: cs => (word () ['a', 'l', 's', 'e'] cs).map fun r => (false, outer, r.2)
  | some '-' :: cs => (passNumber cs).map fun cs => (false, outer, cs)
  | cs => (passNumber cs).map fun cs => (false, outer, cs)

def passWithin : Nat → List Enclosure → List Symbol → Except ReadError (List Symbol)
  | 0, _, _ => .error .malformed
  | fuel + 1, outer, cs =>
    match passOpening outer cs with
    | .error e => .error e
    | .ok (true, outer, cs) => passWithin fuel outer cs
    | .ok (false, outer, cs) =>
      match passClosing outer cs with
      | .error e => .error e
      | .ok (none, cs) => .ok cs
      | .ok (some outer, cs) => passWithin fuel outer cs

def pass (fuel : Nat) (cs : List Symbol) : Except ReadError (List Symbol) := passWithin fuel [] cs

def whole {α : Type} (read : Reader α) (cs : List Symbol) : Except ReadError α := do
  let (a, rest) ← read cs
  if (blanks rest).isEmpty then pure a else .error .malformed

end Read

end Matchday.Json
