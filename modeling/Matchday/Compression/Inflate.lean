import Matchday.Compression.PrefixCode

set_option autoImplicit false

/-!
# Inflation

Deflated bytes are a sequence of blocks, the last of which says so. A block holds bytes as they are,
or symbols in two prefix codes: a symbol is a byte, the end of the block, or the length of something
that has been written before, which is followed by how far back it is. The codes are fixed or come
with the block.
-/
namespace Matchday.Compression.Inflate

open Matchday.Compression

structure Codes where
  main : PrefixCode
  distances : PrefixCode

def fixedCodes : Codes where
  main :=
    .ofLengths
      (List.replicate 144 8 ++ List.replicate 112 9 ++ List.replicate 24 7 ++ List.replicate 8 8)
  distances := .ofLengths (List.replicate 30 5)

def endOfBlock : Nat := 256

def lengthRange? (symbol : Nat) : Option (Nat × Nat) :=
  if symbol < 265 then some (symbol - 254, 0)
  else if symbol < 285 then
    let extra := (symbol - 261) / 4
    some (((symbol - 265) % 4 + 4) * Nat.pow 2 extra + 3, extra)
  else if symbol = 285 then some (258, 0)
  else none

def distanceRange? (symbol : Nat) : Option (Nat × Nat) :=
  if symbol < 4 then some (symbol + 1, 0)
  else if symbol < 30 then
    let extra := symbol / 2 - 1
    some ((symbol % 2 + 2) * Nat.pow 2 extra + 1, extra)
  else none

def symbols (codes : Codes) : Nat → Step Unit
  | 0 => throw .corrupt
  | fuel + 1 => do
    let s ← codes.main.read
    if s < endOfBlock then
      Step.write (UInt8.ofNat s)
      symbols codes fuel
    else if s = endOfBlock then pure ()
    else
      let length ← Step.within (lengthRange? s)
      let distance ← Step.within (distanceRange? (← codes.distances.read))
      Step.repeatWritten distance length
      symbols codes fuel

def stored : Step Unit := do
  Step.align
  let length ← Step.bits 16
  let turned ← Step.bits 16
  if length + turned ≠ 65535 then throw .corrupt
  Step.transfer length

def lengthOrder : List Nat := [16, 17, 18, 0, 8, 7, 9, 6, 10, 5, 11, 4, 12, 3, 13, 2, 14, 1, 15]

/-- Reads lengths of words after those read so far, newest first, until there are so many; a symbol
may repeat the last length, or a zero. -/
def lengths (code : PrefixCode) (total : Nat) : Nat → List Nat → Step (List Nat)
  | 0, _ => throw .corrupt
  | fuel + 1, found =>
    if found.length = total then pure found.reverse
    else if total < found.length then throw .corrupt
    else do
      let s ← code.read
      if s < 16 then lengths code total fuel (s :: found)
      else if s = 16 then
        match found with
        | [] => throw .corrupt
        | last :: _ =>
          let n ← Step.bits 2
          lengths code total fuel (List.replicate (n + 3) last ++ found)
      else if s = 17 then
        let n ← Step.bits 3
        lengths code total fuel (List.replicate (n + 3) 0 ++ found)
      else
        let n ← Step.bits 7
        lengths code total fuel (List.replicate (n + 11) 0 ++ found)

def isUsable (c : PrefixCode) : Bool := c.isWhole || c.symbols.size ≤ 1

def ownCodes : Step Codes := do
  let mainSize := (← Step.bits 5) + 257
  let distanceSize := (← Step.bits 5) + 1
  let orderSize := (← Step.bits 4) + 4
  if 286 < mainSize ∨ 30 < distanceSize then throw .corrupt
  let given ← (lengthOrder.take orderSize).mapM fun symbol => do return (symbol, ← Step.bits 3)
  let code := PrefixCode.ofLengths ((List.range 19).map fun s => (given.lookup s).getD 0)
  if !code.isWhole then throw .corrupt
  let total := mainSize + distanceSize
  let found ← lengths code total (total + 1) []
  let main := PrefixCode.ofLengths (found.take mainSize)
  let distances := PrefixCode.ofLengths (found.drop mainSize)
  if !isUsable main ∨ !isUsable distances then throw .corrupt
  pure ⟨main, distances⟩

/-- Writes what blocks stand for up to the last one, at most so many, each of at most so many
symbols. -/
def blocks (size : Nat) : Nat → Step Unit
  | 0 => throw .corrupt
  | fuel + 1 => do
    let isLast ← Step.bit
    match ← Step.bits 2 with
    | 0 => stored
    | 1 => symbols fixedCodes size
    | 2 => symbols (← ownCodes) size
    | _ => throw .corrupt
    if isLast = 1 then pure () else blocks size fuel

def all : Step Unit := do
  let size := 8 * (← get).source.size + 1
  blocks size size

end Matchday.Compression.Inflate
