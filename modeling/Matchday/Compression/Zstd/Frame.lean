import Matchday.Compression.Zstd.Mix
import Matchday.Compression.Zstd.Sequences

set_option autoImplicit false

/-!
# Zstandard

Compressed bytes are a sequence of frames, some of which stand for nothing. A frame is a header and
blocks, the last of which says so. A block holds bytes as they are, one of them so many times, or
bytes to insert with a sequence of insertions and copies of what the frame has written before.
-/
namespace Matchday.Compression.Zstd

structure Header where
  window : Nat
  contentSize : Option Nat
  dictionary : Nat
  hasChecksum : Bool
  isReserved : Bool
  deriving Repr

namespace Header

def read : Step Header := do
  let dictionaryForm ← Step.bits 2
  let hasChecksum ← Step.bit
  let isReserved ← Step.bit
  let _ ← Step.bit
  let isWhole := (← Step.bit) = 1
  let sizeForm ← Step.bits 2
  let low ← if isWhole then pure 0 else Step.bits 3
  let high ← if isWhole then pure 0 else Step.bits 5
  let dictionary ← Step.bits (8 * [0, 1, 2, 4].getD dictionaryForm 0)
  let contentSize ←
    match sizeForm with
    | 0 => if isWhole then some <$> Step.bits 8 else pure none
    | 1 => (fun n => some (n + 256)) <$> Step.bits 16
    | 2 => some <$> Step.bits 32
    | _ => some <$> Step.bits 64
  let window := (8 + low) * Nat.pow 2 (high + 7)
  return {
    window := if isWhole then contentSize.getD 0 else window
    contentSize, dictionary
    hasChecksum := hasChecksum = 1
    isReserved := isReserved = 1 }

def widest : Nat := Nat.pow 2 27 + 1

def blockLimit (h : Header) : Nat := min h.window (Nat.pow 2 17)

end Header

def blocks (limit start : Nat) : Nat → Kept → Step Unit
  | 0, _ => throw .corrupt
  | fuel + 1, kept => do
    let isLast ← Step.bit
    let kind ← Step.bits 2
    let size ← Step.bits 21
    if limit < (if kind = 1 then 1 else size) then throw .corrupt
    let kept ←
      match kind with
      | 0 =>
        Step.transfer size
        pure kept
      | 1 =>
        let byte ← Step.byte
        if limit < size then throw .corrupt
        (List.replicate size byte).forM Step.write
        pure kept
      | 2 =>
        if size = 0 then pure kept
        else
          let part ← Step.take size
          let before := (← get).written.size
          let kept ← Step.inside part 0 (compressed limit start kept)
          if limit < (← get).written.size - before then throw .corrupt
          pure kept
      | _ => throw .corrupt
    if isLast = 1 then pure () else blocks limit start fuel kept

def frame : Step Unit := do
  let h ← Header.read
  if h.isReserved then throw (.refused .unsupported)
  if Nat.pow 2 32 ≤ h.window ∧ h.contentSize ≠ some h.window then throw (.refused .tooLarge)
  if h.dictionary ≠ 0 then throw (.refused .foreignDictionary)
  if Header.widest < h.window ∧ ¬ h.contentSize.any (· ≤ 32768) then throw (.refused .tooLarge)
  let start := (← get).written.size
  blocks h.blockLimit start (8 * (← get).source.size + 1) {}
  let content := (← get).written.extract start (← get).written.size
  if h.contentSize.any (· ≠ content.size) then throw .corrupt
  if h.hasChecksum then
    let told ← Step.bits 32
    if told ≠ (mix content.toList).toNat % Nat.pow 2 32 then throw (.refused .badChecksum)

def mark : List UInt8 := [0x28, 0xb5, 0x2f, 0xfd]

def skippedMark : List UInt8 := [0x50, 0x2a, 0x4d, 0x18]

def isMark (bytes : List UInt8) : Bool := bytes == mark.take bytes.length

def isSkippedMark (bytes : List UInt8) : Bool :=
  match bytes with
  | [] => true
  | first :: rest => (first &&& 0xf0) :: rest == skippedMark.take bytes.length

def frames : Nat → Step Unit
  | 0 => throw .corrupt
  | fuel + 1 => do
    let p ← get
    let place := p.place / 8
    let left := p.source.size - place
    let start := (p.source.extract place (place + 4)).toList
    if left = 0 then pure ()
    else if ¬ isMark start ∧ ¬ isSkippedMark start then throw (.refused .unknown)
    else if left < 5 then throw .starved
    else
      let _ ← Step.take 4
      if isMark start then frame
      else
        let size ← Step.bits 32
        let _ ← Step.take size
      frames fuel

def unpack (bytes : List UInt8) : Except ContainerFault Unpacked :=
  let (result, p) := (frames (bytes.length + 1)).runOn bytes
  match result with
  | .ok () | .error .starved => .ok ⟨p.written.toList, none⟩
  | .error .corrupt => .error (.frame .badContent)
  | .error (.refused fault) => .error (.frame fault)

example :
    (unpack [0x28, 0xb5, 0x2f, 0xfd, 0x20, 0x02, 0x11, 0x00, 0x00, 0x7b, 0x7d]).toOption =
      some ⟨[0x7b, 0x7d], none⟩ := by
  decide +kernel

end Matchday.Compression.Zstd
