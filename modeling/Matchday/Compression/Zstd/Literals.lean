import Matchday.Compression.Zstd.StateCode

set_option autoImplicit false

namespace Matchday.Compression.Zstd

/-- A prefix code that is read backwards: the symbol and the length of the word that begins each
sequence of the greatest length. -/
structure LiteralCode where
  log : Nat
  words : Array (Nat × Nat)
  deriving Repr

namespace LiteralCode

def sequences (weight : Nat) : Nat := if weight = 0 then 0 else Nat.pow 2 (weight - 1)

def longest : Nat := 12

/-- The code in which symbols have words of these weights, and the next symbol has what is left. -/
def ofWeights? (weights : List Nat) : Option LiteralCode := do
  let taken := weights.foldl (fun n weight => n + sequences weight) 0
  let log := Nat.log2 taken + 1
  let left := Nat.pow 2 log - taken
  if taken = 0 ∨ weights.any (longest < ·) ∨ longest < log then failure
  if left ≠ Nat.pow 2 (Nat.log2 left) then failure
  let weights := weights ++ [Nat.log2 left + 1]
  let lightest := weights.count 1
  if lightest < 2 ∨ lightest % 2 = 1 then failure
  let words := (List.range log).flatMap fun w =>
    (weights.zipIdx.filter fun e => e.1 == w + 1).flatMap fun e =>
      List.replicate (Nat.pow 2 w) (e.2, log - w)
  pure ⟨log, words.toArray⟩

/-- Reads weights, at most so many, from the states of two runs in turn until the bits end. -/
def weightsFrom (c : StateCode) : Nat → Nat → Nat → List Nat → Step (List Nat)
  | 0, _, _, _ => throw .corrupt
  | fuel + 1, state, other, found => do
    let found := c.symbol state :: found
    if (← get).place < (c.cell state).bits then pure (c.symbol other :: found).reverse
    else weightsFrom c fuel other (← c.next state) found

def packedWeights (size : Nat) : Step (List Nat) := do
  let part ← Step.take size
  Step.inside part 0 do
    let c ← StateCode.header 6 256
    let part ← Step.rest
    Step.insideBack part do
      let state ← c.first
      let other ← c.first
      weightsFrom c 254 state other []

def plainWeights (number : Nat) : Step (List Nat) := do
  let part ← Step.take ((number + 1) / 2)
  pure ((part.toList.flatMap fun b => [b.toNat / 16, b.toNat % 16]).take number)

def header : Step LiteralCode := do
  let size := (← Step.byte).toNat
  let weights ← if 128 ≤ size then plainWeights (size - 127) else packedWeights size
  match ofWeights? weights with
  | some code => pure code
  | none => throw .corrupt

/-- Reads so many symbols after those read so far; before the first bit there are zeros, which no
word may need. -/
def symbols (c : LiteralCode) : Nat → ByteArray → Step ByteArray
  | 0, found => pure found
  | n + 1, found => do
    let place := (← get).place
    let width := min c.log place
    let start ← Step.bitsBack width
    let (symbol, length) := c.words.getD (start * Nat.pow 2 (c.log - width)) (0, 0)
    if place < length then throw .corrupt
    modify fun p => { p with place := place - length }
    symbols c n (found.push (UInt8.ofNat symbol))

def stream (c : LiteralCode) (bytes : ByteArray) (number : Nat) : Step ByteArray :=
  Step.insideBack bytes do
    let found ← c.symbols number .empty
    if (← get).place ≠ 0 then throw .corrupt
    pure found

def fourStreams (c : LiteralCode) (number : Nat) : Step ByteArray := do
  let quarter := (number + 3) / 4
  let sizes ← (List.replicate 3 ()).mapM fun _ => Step.bits 16
  let first ← sizes.mapM fun size => do c.stream (← Step.take size) quarter
  let last ← c.stream (← Step.rest) (number - 3 * quarter)
  pure ((first ++ [last]).foldl (· ++ ·) .empty)

end LiteralCode

def plainSize : Step Nat := do
  if (← Step.bit) = 0 then Step.bits 5
  else if (← Step.bit) = 0 then Step.bits 12
  else Step.bits 20

def literals (limit : Nat) (earlier : Option LiteralCode) :
    Step (ByteArray × Option LiteralCode) := do
  match ← Step.bits 2 with
  | 0 =>
    let size ← sized plainSize
    return (← Step.take size, earlier)
  | 1 =>
    let size ← sized plainSize
    let byte ← Step.byte
    pure ((List.replicate size byte).foldl ByteArray.push .empty, earlier)
  | kind =>
    if kind = 3 ∧ earlier.isNone then throw (.refused .missingTable)
    let form ← Step.bits 2
    let width := [10, 10, 14, 18].getD form 0
    let size ← sized (Step.bits width)
    let part ← Step.take (← Step.bits width)
    Step.inside part 0 do
      let code ←
        match kind, earlier with
        | 3, some code => pure code
        | _, _ => LiteralCode.header
      let found ← if form = 0 then do code.stream (← Step.rest) size else code.fourStreams size
      pure (found, some code)
where
  sized (s : Step Nat) : Step Nat := do
    let size ← s
    if limit < size then throw .corrupt
    pure size

end Matchday.Compression.Zstd
