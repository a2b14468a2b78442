import Matchday.Compression.Zstd.Literals

set_option autoImplicit false

namespace Matchday.Compression.Zstd

structure CodeKind where
  longest : Nat
  size : Nat
  usual : StateCode

def insertKind : CodeKind where
  longest := 9
  size := 36
  usual :=
    .ofShares 6
      ([5, 4] ++ List.replicate 11 3 ++ [2, 2, 2] ++ List.replicate 9 3 ++ [4, 3]
        ++ List.replicate 5 2 ++ List.replicate 4 0)

def offsetKind : CodeKind where
  longest := 8
  size := 32
  usual :=
    .ofShares 5
      (List.replicate 6 2 ++ [3, 3, 3] ++ List.replicate 15 2 ++ List.replicate 5 0)

def copyKind : CodeKind where
  longest := 9
  size := 53
  usual :=
    .ofShares 6
      ([2, 5, 4] ++ List.replicate 6 3 ++ List.replicate 37 2 ++ List.replicate 7 0)

def CodeKind.read (k : CodeKind) (earlier : Option StateCode) : Nat → Step StateCode
  | 0 => pure k.usual
  | 1 => do
    let symbol := (← Step.byte).toNat
    if k.size ≤ symbol then throw .corrupt
    pure (.single symbol)
  | 2 => StateCode.header k.longest k.size
  | _ =>
    match earlier with
    | some code => pure code
    | none => throw .corrupt

structure SequenceCodes where
  inserts : StateCode
  offsets : StateCode
  copies : StateCode

def insertRanges : List (Nat × Nat) :=
  Step.rangesFrom 0
    (List.replicate 16 0
      ++ [1, 1, 1, 1, 2, 2, 3, 3, 4, 6, 7, 8, 9, 10, 11, 12, 13, 14, 15, 16])

def copyRanges : List (Nat × Nat) :=
  Step.rangesFrom 3
    (List.replicate 32 0
      ++ [1, 1, 1, 1, 2, 2, 3, 3, 4, 4, 5, 7, 8, 9, 10, 11, 12, 13, 14, 15, 16])

/-- How far back a number says, and the last three distances then, the newest first. The first
numbers tell one of the last distances; where nothing is inserted they leave out the newest. -/
def offset (last : List Nat) (number inserted : Nat) : Nat × List Nat :=
  if 3 < number then (number - 3, (number - 3) :: last.take 2)
  else
    let place := if inserted = 0 then number else number - 1
    let distance := if place = 3 then last.getD 0 0 - 1 else last.getD place 0
    (distance, distance :: last.eraseIdx (min place 2))

/-- Where reading is: the states of the three codes, how many of the bytes to insert have been
taken, and the last distances. -/
structure Run where
  insert : Nat
  offset : Nat
  copy : Nat
  taken : Nat := 0
  last : List Nat

namespace Run

def within (ranges : List (Nat × Nat)) (symbol : Nat) : Step Nat :=
  match ranges[symbol]? with
  | some (least, extra) => do return least + (← Step.bitsBack extra)
  | none => throw .corrupt

def sequence (codes : SequenceCodes) (literals : ByteArray) (start : Nat) (r : Run) : Step Run := do
  let width := codes.offsets.symbol r.offset
  let number := Nat.pow 2 width + (← Step.bitsBack width)
  let copied ← within copyRanges (codes.copies.symbol r.copy)
  let inserted ← within insertRanges (codes.inserts.symbol r.insert)
  let (distance, last) := Zstd.offset r.last number inserted
  let taken := r.taken + inserted
  if literals.size < taken then throw .corrupt
  Step.append (literals.extract r.taken taken)
  if distance = 0 ∨ (← get).written.size - start < distance then throw .corrupt
  Step.repeatWritten distance copied
  pure { r with taken, last }

def sequences (codes : SequenceCodes) (literals : ByteArray) (start : Nat) : Nat → Run → Step Run
  | 0, r => pure r
  | n + 1, r => do
    let r ← r.sequence codes literals start
    if n = 0 then pure r
    else
      let insert ← codes.inserts.next r.insert
      let copy ← codes.copies.next r.copy
      let offset ← codes.offsets.next r.offset
      sequences codes literals start n { r with insert, copy, offset }

end Run

def sequenceNumber : Step Nat := do
  let first := (← Step.byte).toNat
  if first < 128 then pure first
  else if first < 255 then return (first - 128) * 256 + (← Step.byte).toNat
  else return 0x7f00 + (← Step.bits 16)

structure Kept where
  literals : Option LiteralCode := none
  codes : Option SequenceCodes := none
  last : List Nat := [1, 4, 8]

def compressed (limit start : Nat) (kept : Kept) : Step Kept := do
  let (found, code) ← literals limit kept.literals
  let kept := { kept with literals := code }
  let number ← sequenceNumber
  if number = 0 then
    if 0 < (← Step.rest).size then throw (.refused .wrongSize)
    Step.append found
    pure kept
  else
    if (← Step.bits 2) ≠ 0 then throw .corrupt
    let copyWay ← Step.bits 2
    let offsetWay ← Step.bits 2
    let insertWay ← Step.bits 2
    let codes : SequenceCodes :=
      { inserts := ← insertKind.read (kept.codes.map (·.inserts)) insertWay
        offsets := ← offsetKind.read (kept.codes.map (·.offsets)) offsetWay
        copies := ← copyKind.read (kept.codes.map (·.copies)) copyWay }
    let part ← Step.rest
    let r ← Step.insideBack part do
      let insert ← codes.inserts.first
      let offset ← codes.offsets.first
      let copy ← codes.copies.first
      let r ← Run.sequences codes found start number { insert, offset, copy, last := kept.last }
      if (← get).place ≠ 0 then throw .corrupt
      pure r
    Step.append (found.extract r.taken found.size)
    pure { kept with codes, last := r.last }

end Matchday.Compression.Zstd
