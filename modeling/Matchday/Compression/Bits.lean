set_option autoImplicit false

/-!
# Bytes read as bits

Compressed bytes are read from a place in them, bit by bit, the lowest bit of a byte first, while
the bytes that they stand for are written. Reading stops where the bytes end too early, where they
can mean nothing, or where they ask for what is not given; what has been written until then stays.
-/
namespace Matchday.Compression

inductive FrameFault
  | unknown
  | unsupported
  | tooLarge
  | foreignDictionary
  | missingTable
  | wrongSize
  | badContent
  | badChecksum
  deriving DecidableEq, Repr

inductive Halt
  | starved
  | corrupt
  | refused (fault : FrameFault)
  deriving DecidableEq, Repr

/-- The bytes to read, the place of the next bit, and what has been written. -/
structure Progress where
  source : ByteArray
  place : Nat
  written : ByteArray

abbrev Step := ExceptT Halt (StateM Progress)

namespace Step

def bit : Step Nat := do
  let p ← get
  match p.source[p.place / 8]? with
  | some byte =>
    set { p with place := p.place + 1 }
    pure (byte.toNat / Nat.pow 2 (p.place % 8) % 2)
  | none => throw .starved

def bits : Nat → Step Nat
  | 0 => pure 0
  | n + 1 => do
    let low ← bit
    let high ← bits n
    pure (low + 2 * high)

def align : Step Unit := modify fun p => { p with place := (p.place + 7) / 8 * 8 }

def byte : Step UInt8 := do
  let p ← get
  match p.source[p.place / 8]? with
  | some b =>
    set { p with place := p.place + 8 }
    pure b
  | none => throw .starved

def take (n : Nat) : Step ByteArray := do
  let p ← get
  let start := p.place / 8
  if p.source.size < start + n then throw .starved
  set { p with place := p.place + 8 * n }
  pure (p.source.extract start (start + n))

def rest : Step ByteArray := do
  let p ← get
  take (p.source.size - p.place / 8)

/-- A number of so many bits that end at the place, which goes back to where they begin. -/
def bitsBack (n : Nat) : Step Nat := do
  let start := (← get).place - n
  if (← get).place < n then throw .starved
  modify fun p => { p with place := start }
  let number ← bits n
  modify fun p => { p with place := start }
  pure number

/-- Takes a step over some bytes alone, from a place in them, which they must be enough for. -/
def inside {α : Type} (source : ByteArray) (place : Nat) (s : Step α) : Step α := do
  let outside := ((← get).source, (← get).place)
  modify fun p => { p with source, place }
  let a ← tryCatch s fun h => throw (if h = .starved then .corrupt else h)
  modify fun p => { p with source := outside.1, place := outside.2 }
  pure a

/-- Takes a step back over some bytes from the last bit set, which is not read itself. -/
def insideBack {α : Type} (source : ByteArray) (s : Step α) : Step α :=
  match source[source.size - 1]? with
  | none | some 0 => throw .corrupt
  | some last => inside source (8 * (source.size - 1) + Nat.log2 last.toNat) s

/-- A number in a range, which is given by its least number and how many bits say what is to be
added. -/
def within : Option (Nat × Nat) → Step Nat
  | some (least, extra) => do return least + (← bits extra)
  | none => throw .corrupt

def write (b : UInt8) : Step Unit := modify fun p => { p with written := p.written.push b }

def append (bytes : ByteArray) : Step Unit :=
  modify fun p => { p with written := p.written ++ bytes }

def transfer : Nat → Step Unit
  | 0 => pure ()
  | n + 1 => do
    write (← byte)
    transfer n

def extended (distance : Nat) : Nat → ByteArray → ByteArray
  | 0, bytes => bytes
  | n + 1, bytes =>
    let earlier := if distance ≤ bytes.size then bytes[bytes.size - distance]? else none
    extended distance n (bytes.push (earlier.getD 0))

/-- Writes again what has been written so far back; before the beginning there are zeros. -/
def repeatWritten (distance length : Nat) : Step Unit :=
  modify fun p => { p with written := extended distance length p.written }

def rangesFrom (least : Nat) : List Nat → List (Nat × Nat)
  | [] => []
  | extra :: rest => (least, extra) :: rangesFrom (least + Nat.pow 2 extra) rest

/-- Reads bytes to the end of what a step takes: whether and why it stopped, and how far it got. -/
def runOn {α : Type} (s : Step α) (bytes : List UInt8) : Except Halt α × Progress :=
  s.run ⟨⟨bytes.toArray⟩, 0, .empty⟩

end Step

end Matchday.Compression
