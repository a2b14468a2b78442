import Matchday.Text.Utf8

set_option autoImplicit false

namespace Matchday.Text.Percent

open Matchday.Text

def hexValue? (b : UInt8) : Option Nat :=
  let n := b.toNat
  if 48 ≤ n ∧ n ≤ 57 then some (n - 48)
  else if 65 ≤ n ∧ n ≤ 70 then some (n - 55)
  else if 97 ≤ n ∧ n ≤ 102 then some (n - 87)
  else none

def escaped? (high low : UInt8) : Option UInt8 := do
  let h ← hexValue? high
  let l ← hexValue? low
  pure (UInt8.ofNat (h * 16 + l))

/-- The bytes with escapes replaced, except those of bytes that are to stay as they are. -/
def decodeExcept (kept : UInt8 → Bool) : List UInt8 → List UInt8
  | 0x25 :: high :: low :: rest =>
    match escaped? high low with
    | some b =>
      if kept b then 0x25 :: high :: low :: decodeExcept kept rest
      else b :: decodeExcept kept rest
    | none => 0x25 :: decodeExcept kept (high :: low :: rest)
  | b :: rest => b :: decodeExcept kept rest
  | [] => []
  termination_by bytes => bytes.length

def decode (bytes : List UInt8) : List UInt8 := decodeExcept (fun _ => false) bytes

def decodeText (s : String) : String := Utf8.lossy (decode (Utf8.encode s))

/-- The parts between separators; there is always at least one. -/
def splitOn (sep : UInt8) : List UInt8 → List (List UInt8)
  | [] => [[]]
  | b :: rest =>
    if b = sep then [] :: splitOn sep rest
    else
      match splitOn sep rest with
      | [] => [[b]]
      | part :: parts => (b :: part) :: parts

def formText (bytes : List UInt8) : String :=
  Utf8.lossy (decode (bytes.map fun b => if b = 0x2b then 0x20 else b))

def formPair (bytes : List UInt8) : String × String :=
  (formText (bytes.takeWhile (· != 0x3d)), formText ((bytes.dropWhile (· != 0x3d)).drop 1))

def formPairs (s : String) : List (String × String) :=
  ((splitOn 0x26 (Utf8.encode s)).filter fun p => !p.isEmpty).map formPair

end Matchday.Text.Percent
