import Matchday.Compression.Bits

set_option autoImplicit false

namespace Matchday.Compression.Zstd

/-- What a state stands for, and the least of the states that may be next, of which so many bits
choose one. -/
structure Cell where
  symbol : Nat
  bits : Nat
  least : Nat
  deriving DecidableEq, Repr, Inhabited

/-- A code of states: each stands for a symbol, and the bits between two states tell the second. -/
structure StateCode where
  log : Nat
  cells : Array Cell
  deriving Repr

namespace StateCode

def single (symbol : Nat) : StateCode := ⟨0, #[⟨symbol, 0, 0⟩]⟩

def statesOf (share : Nat) : Nat := if share = 0 then 1 else share - 1

/-- The symbol of each state: those of a symbol are spread, and the rare ones come from the end. -/
def spread (log : Nat) (shares : List Nat) : Array Nat :=
  let size := Nat.pow 2 log
  let rare := (shares.zipIdx.filter fun e => e.1 == 0).map Prod.snd
  let common := shares.zipIdx.flatMap fun (share, symbol) => List.replicate (share - 1) symbol
  let places := (List.range size).map fun i => i * (size / 2 + size / 8 + 3) % size
  let taken :=
    (places.filter (· < size - rare.length)).zip common
      ++ rare.zipIdx.map fun (symbol, i) => (size - 1 - i, symbol)
  taken.foldl (fun symbols (place, symbol) => symbols.setIfInBounds place symbol)
    (Array.replicate size 0)

/-- The states of a symbol, in their order, go through the numbers from how many there are on. -/
def ofShares (log : Nat) (shares : List Nat) : StateCode :=
  let fill (state : Array Nat × Array Cell) (symbol : Nat) : Array Nat × Array Cell :=
    let number := state.1.getD symbol 0
    let bits := log - Nat.log2 number
    (state.1.setIfInBounds symbol (number + 1),
      state.2.push ⟨symbol, bits, number * Nat.pow 2 bits - Nat.pow 2 log⟩)
  ⟨log, ((spread log shares).foldl fill ((shares.map statesOf).toArray, #[])).2⟩

/-- A share of which `left - 1` states are left; small ones may take a bit less. -/
def share (left : Nat) : Step Nat := do
  let width := Nat.log2 left
  let half := Nat.pow 2 width
  let short := 2 * half - 1 - left
  let low ← Step.bits width
  if low < short then pure low
  else if (← Step.bit) = 0 then pure low
  else pure (low + half - short)

def emptyShares : Nat → Step Nat
  | 0 => throw .corrupt
  | fuel + 1 => do
    match ← Step.bits 2 with
    | 3 => (· + 3) <$> emptyShares fuel
    | n => pure n

def shares (size : Nat) : Nat → Nat → List Nat → Step (List Nat)
  | 0, _, _ => throw .corrupt
  | fuel + 1, left, found =>
    if left ≤ 1 then pure found.reverse
    else if size ≤ found.length then throw .corrupt
    else do
      let n ← share left
      let empty ← if n = 1 then emptyShares size else pure 0
      shares size fuel (left - statesOf n) (List.replicate empty 1 ++ n :: found)

def header (longest size : Nat) : Step StateCode := do
  let log := (← Step.bits 4) + 5
  if longest < log then throw .corrupt
  let found ← shares size (size + 1) (Nat.pow 2 log + 1) []
  Step.align
  pure (ofShares log found)

def cell (c : StateCode) (state : Nat) : Cell := c.cells.getD state default

def symbol (c : StateCode) (state : Nat) : Nat := (c.cell state).symbol

def first (c : StateCode) : Step Nat := Step.bitsBack c.log

def next (c : StateCode) (state : Nat) : Step Nat := do
  let cell := c.cell state
  return cell.least + (← Step.bitsBack cell.bits)

end StateCode

end Matchday.Compression.Zstd
