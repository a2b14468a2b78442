set_option autoImplicit false

namespace Matchday.Text

abbrev Symbol := Option Char

def symbols (s : String) : List Symbol := s.toList.map some

namespace Utf8

/-- A character begun: its bits so far, the number of bytes it lacks, and the range of the next. -/
structure Begun where
  bits : Nat
  lacking : Nat
  low : Nat
  high : Nat
  deriving DecidableEq, Repr

inductive Lead
  | whole (c : Char)
  | begun (p : Begun)
  | bad
  deriving DecidableEq, Repr

def lead (b : Nat) : Lead :=
  if b < 0x80 then .whole (Char.ofNat b)
  else if b < 0xc2 then .bad
  else if b < 0xe0 then .begun ⟨b - 0xc0, 1, 0x80, 0xbf⟩
  else if b = 0xe0 then .begun ⟨0, 2, 0xa0, 0xbf⟩
  else if b = 0xed then .begun ⟨0xd, 2, 0x80, 0x9f⟩
  else if b < 0xf0 then .begun ⟨b - 0xe0, 2, 0x80, 0xbf⟩
  else if b = 0xf0 then .begun ⟨0, 3, 0x90, 0xbf⟩
  else if b < 0xf4 then .begun ⟨b - 0xf0, 3, 0x80, 0xbf⟩
  else if b = 0xf4 then .begun ⟨4, 3, 0x80, 0x8f⟩
  else .bad

/-- Reads one byte: the symbols that it settles, newest first, and the character it leaves begun. -/
def step (pending : Option Begun) (b : Nat) : List Symbol × Option Begun :=
  let start (settled : List Symbol) : List Symbol × Option Begun :=
    match lead b with
    | .whole c => (some c :: settled, none)
    | .begun p => (settled, some p)
    | .bad => (none :: settled, none)
  match pending with
  | none => start []
  | some p =>
    if p.low ≤ b ∧ b ≤ p.high then
      let bits := p.bits * 64 + (b - 0x80)
      if p.lacking = 1 then ([some (Char.ofNat bits)], none)
      else ([], some ⟨bits, p.lacking - 1, 0x80, 0xbf⟩)
    else start [none]

def scan : List Symbol → Option Begun → List UInt8 → List Symbol
  | acc, none, [] => acc.reverse
  | acc, some _, [] => (none :: acc).reverse
  | acc, pending, b :: bytes =>
    let (settled, pending) := step pending b.toNat
    scan (settled ++ acc) pending bytes

def decode (bytes : List UInt8) : List Symbol := scan [] none bytes

def lossy (bytes : List UInt8) : String :=
  String.ofList ((decode bytes).map fun s => s.getD '\ufffd')

def valid (bytes : List UInt8) : Bool := (decode bytes).all Option.isSome

def encode (s : String) : List UInt8 := s.toUTF8.toList

example : decode [0x61, 0xe2, 0x82, 0xac, 0xe2, 0x82, 0x41, 0xff] =
    [some 'a', some '€', none, some 'A', none] := by decide

end Utf8

end Matchday.Text
