import Matchday.Compression.Brotli.Codes
import Matchday.Compression.Brotli.Words
import Matchday.Compression.Container

set_option autoImplicit false

/-!
# Brotli

Compressed bytes are a sequence of blocks, the last of which says so. A block is empty, holds bytes
as they are, or holds commands: so many bytes, each in a code that is chosen by those before it, and
then a copy of something that has been written before, or a known word.
-/
namespace Matchday.Compression.Brotli

inductive ContextMode
  | lowBits
  | highBits
  | text
  | signed
  deriving DecidableEq, Repr, Inhabited

namespace ContextMode

def kinds : List Nat :=
  [0, 0, 0, 0, 0, 0, 0, 0, 0, 1, 1, 0, 0, 1, 0, 0, 0, 0, 0, 0, 0, 0, 0, 0, 0, 0, 0, 0, 0, 0, 0, 0,
   2, 3, 4, 3, 3, 5, 3, 4, 6, 7, 3, 3, 8, 3, 9, 3,
   11, 11, 11, 11, 11, 11, 11, 11, 11, 11, 8, 8, 6, 10, 7, 3,
   3, 12, 13, 13, 13, 12, 13, 13, 13, 12, 13, 13, 13, 13, 13, 12,
   13, 13, 13, 13, 13, 12, 13, 13, 13, 13, 13, 6, 3, 7, 3, 3,
   3, 14, 15, 15, 15, 14, 15, 15, 15, 14, 15, 15, 15, 15, 15, 14,
   15, 15, 15, 15, 15, 14, 15, 15, 15, 15, 15, 6, 3, 7, 3, 0]

def lastInText (b : Nat) : Nat :=
  if b < 128 then 4 * kinds.getD b 0 else b % 2 + if b < 192 then 0 else 2

def secondInText (b : Nat) : Nat :=
  if 97 ≤ b ∧ b ≤ 122 then 3
  else if 48 ≤ b ∧ b ≤ 57 ∨ 65 ≤ b ∧ b ≤ 90 ∨ 224 ≤ b then 2
  else if 33 ≤ b ∧ b ≤ 126 then 1
  else 0

def magnitude (b : Nat) : Nat :=
  if b = 0 then 0
  else if b < 16 then 1
  else if b < 64 then 2
  else if b < 128 then 3
  else if b < 192 then 4
  else if b < 240 then 5
  else if b < 255 then 6
  else 7

def ofBits : Nat → ContextMode
  | 0 => lowBits
  | 1 => highBits
  | 2 => text
  | _ => signed

def context (last second : Nat) : ContextMode → Nat
  | lowBits => last % 64
  | highBits => last / 4
  | text => lastInText last ||| secondInText second
  | signed => 8 * magnitude last + magnitude second

end ContextMode

/-- How far back copies may reach, and the most bits that may be added to a distance. -/
structure Window where
  reach : Nat
  distanceBits : Nat := 24

namespace Window

def ofWidth (width : Nat) : Window := { reach := Nat.pow 2 width - 16 }

def large (width : Nat) : Window := { ofWidth width with distanceBits := 62 }

def header : Step Window := do
  if (← Step.bit) = 0 then pure (ofWidth 16)
  else
    match ← Step.bits 3 with
    | 0 =>
      match ← Step.bits 3 with
      | 0 => pure (ofWidth 17)
      | 1 =>
        if (← Step.bit) = 1 then throw .corrupt
        let width ← Step.bits 6
        if width < 10 ∨ 30 < width then throw .corrupt
        pure (large width)
      | n => pure (ofWidth (8 + n))
    | n => pure (ofWidth (17 + n))

end Window

/-- How distances are told: some have symbols of their own, and so many low bits are part of the
symbols of the others. -/
structure DistanceForm where
  direct : Nat
  lowBits : Nat
  deriving Repr

namespace DistanceForm

def header : Step DistanceForm := do
  let lowBits ← Step.bits 2
  return { direct := (← Step.bits 4) * Nat.pow 2 lowBits, lowBits }

def range (f : DistanceForm) (n : Nat) : Nat × Nat :=
  let group := n / Nat.pow 2 f.lowBits
  let extra := 1 + group / 2
  ((2 + group % 2) * Nat.pow 2 extra - 4, extra)

def farthest : Nat := 0x7ffffffc

/-- The distances of a range that begin with the number of its symbol. -/
def farthestOf (f : DistanceForm) (n : Nat) : Nat :=
  let (least, extra) := f.range n
  (least + Nat.pow 2 extra - 1) * Nat.pow 2 f.lowBits + n % Nat.pow 2 f.lowBits + f.direct + 1

def alphabet (f : DistanceForm) (w : Window) : Alphabet :=
  let far := w.distanceBits * Nat.pow 2 (f.lowBits + 1)
  let near :=
    if w.distanceBits = 24 then far
    else ((List.range far).filter fun n => f.farthestOf n ≤ farthest).length
  { room := 16 + f.direct + far, size := 16 + f.direct + near }

/-- One of the last distances, changed by three at most; zero is none. -/
def recent (last : List Nat) (symbol : Nat) : Nat :=
  if symbol < 4 then last.getD symbol 0
  else
    let distance := last.getD (if symbol < 10 then 0 else 1) 0
    let difference := (symbol - 4) % 6 / 2 + 1
    if symbol % 2 = 0 then distance - difference else distance + difference

def read (f : DistanceForm) (last : List Nat) (symbol : Nat) : Step Nat :=
  if symbol < 16 then pure (recent last symbol)
  else if symbol < 16 + f.direct then pure (symbol - 15)
  else do
    let n := symbol - 16 - f.direct
    let high ← Step.within (f.range n)
    pure (high * Nat.pow 2 f.lowBits + n % Nat.pow 2 f.lowBits + f.direct + 1)

end DistanceForm

structure Codes where
  modes : Array ContextMode
  literalContexts : Array Nat
  distanceContexts : Array Nat
  literals : Array Code
  commands : Array Code
  distances : Array Code
  form : DistanceForm

structure Course where
  literals : Blocks
  commands : Blocks
  distances : Blocks

def codesOf (count : Nat) (a : Alphabet) : Step (Array Code) := do
  let codes ← (List.replicate count ()).mapM fun _ => Code.ofAlphabet a
  pure codes.toArray

def blockHeader (w : Window) : Step (Codes × Course) := do
  let literals ← Blocks.header
  let commands ← Blocks.header
  let distances ← Blocks.header
  let form ← DistanceForm.header
  let modes ← (List.replicate literals.types ()).mapM fun _ => ContextMode.ofBits <$> Step.bits 2
  let (literalCodes, literalContexts) ← contextMap (64 * literals.types)
  let (distanceCodes, distanceContexts) ← contextMap (4 * distances.types)
  let codes :=
    { modes := modes.toArray, literalContexts, distanceContexts, form
      literals := ← codesOf literalCodes { room := 256 }
      commands := ← codesOf commands.types { room := 704 }
      distances := ← codesOf distanceCodes (form.alphabet w) }
  pure (codes, { literals, commands, distances })

def insertRanges : List (Nat × Nat) :=
  Step.rangesFrom 0
    [0, 0, 0, 0, 0, 0, 1, 1, 2, 2, 3, 3, 4, 4, 5, 5, 6, 7, 8, 9, 10, 12, 14, 24]

def copyRanges : List (Nat × Nat) :=
  Step.rangesFrom 2
    [0, 0, 0, 0, 0, 0, 0, 0, 1, 1, 2, 2, 3, 3, 4, 4, 5, 5, 6, 7, 8, 9, 10, 24]

/-- The least of eight numbers for how much to insert and of eight for how much to copy, for every
64 symbols; those of the first two rows copy from the last distance. -/
def commandRows : List (Nat × Nat) :=
  [(0, 0), (0, 8), (0, 0), (0, 8), (8, 0), (8, 8), (0, 16), (16, 0), (8, 16), (16, 8), (16, 16)]

structure Command where
  insert : Nat
  copy : Nat
  isNear : Bool

def command (code : Code) : Step Command := do
  let symbol ← code.read
  let (insert, copy) := commandRows.getD (symbol / 64) (0, 0)
  return {
    insert := ← Step.within insertRanges[insert + symbol / 8 % 8]?
    copy := ← Step.within copyRanges[copy + symbol % 8]?
    isNear := symbol < 128 }

def lastTwo : Step (Nat × Nat) := do
  let written := (← get).written
  let back (n : Nat) : Nat := if written.size < n then 0 else (written.get! (written.size - n)).toNat
  pure (back 1, back 2)

def literals (codes : Codes) : Nat → Blocks → Step Blocks
  | 0, blocks => pure blocks
  | n + 1, blocks => do
    let blocks ← blocks.next
    let (last, second) ← lastTwo
    let context := (codes.modes.getD blocks.type default).context last second
    let code := codes.literalContexts.getD (64 * blocks.type + context) 0
    let symbol ← (codes.literals.getD code default).read
    Step.write (UInt8.ofNat symbol)
    literals codes n blocks

def distance (codes : Codes) (course : Course) (last : List Nat) (c : Command) :
    Step (Nat × Bool × Course) := do
  if c.isNear then pure (last.getD 0 0, true, course)
  else
    let distances ← course.distances.next
    let code := codes.distanceContexts.getD (4 * distances.type + min (c.copy - 2) 3) 0
    let symbol ← (codes.distances.getD code default).read
    return (← codes.form.read last symbol, symbol = 0, { course with distances })

/-- Writes what a command copies, and how much that is. What is farther back than the window, or
than what has been written, is a known word. -/
def copy (w : Window) (length distance : Nat) : Step (Nat × Bool) := do
  let reach := min w.reach (← get).written.size
  if distance = 0 ∨ DistanceForm.farthest < distance then throw .corrupt
  if distance ≤ reach then
    Step.repeatWritten distance length
    pure (length, true)
  else
    match word? length (distance - reach - 1) with
    | some word =>
      word.forM Step.write
      pure (word.length, false)
    | none => throw .corrupt

def commands (w : Window) (codes : Codes) : Nat → Course → List Nat → Nat → Step (List Nat)
  | 0, _, _, _ => throw .corrupt
  | fuel + 1, course, last, left => do
    let blocks ← course.commands.next
    let c ← command (codes.commands.getD blocks.type default)
    if left < c.insert then throw .corrupt
    let literals ← literals codes c.insert course.literals
    let course := { course with commands := blocks, literals }
    let left := left - c.insert
    if left = 0 then pure last
    else
      let (distance, isLast, course) ← distance codes course last c
      let (length, isCopy) ← copy w c.copy distance
      let last := if isCopy ∧ ¬ isLast then distance :: last.take 3 else last
      if left < length then throw .corrupt
      if left = length then pure last
      else commands w codes fuel course last (left - length)

def alignZero : Step Unit := do
  let rest ← Step.bits ((8 - (← get).place % 8) % 8)
  if rest ≠ 0 then throw .corrupt

/-- A number of so many digits of so many bits, the last of which is not zero if they are more than
`free`. -/
def digits (width count free : Nat) : Step Nat := do
  let number ← Step.bits (width * count)
  if free < count ∧ number < Nat.pow 2 (width * (count - 1)) then throw .corrupt
  pure number

def skipped : Step Unit := do
  if (← Step.bit) = 1 then throw .corrupt
  let count ← Step.bits 2
  let length ← digits 8 count 1
  alignZero
  let _ ← (List.replicate (if count = 0 then 0 else length + 1) ()).mapM fun _ => Step.byte

def block (w : Window) (last : List Nat) (isEnd : Bool) : Step (List Nat) := do
  match ← Step.bits 2 with
  | 3 =>
    skipped
    pure last
  | n =>
    let length := (← digits 4 (n + 4) 4) + 1
    let isRaw ← if isEnd then pure 0 else Step.bit
    if isRaw = 1 then
      alignZero
      Step.transfer length
      pure last
    else
      let (codes, course) ← blockHeader w
      commands w codes (length + 8 * (← get).source.size + 2) course last length

def blocks (w : Window) : Nat → List Nat → Step Unit
  | 0, _ => throw .corrupt
  | fuel + 1, last => do
    let isEnd := (← Step.bit) = 1
    let isEmpty ← if isEnd then Step.bit else pure 0
    if isEmpty = 1 then alignZero
    else
      let last ← block w last isEnd
      if isEnd then alignZero else blocks w fuel last

def all : Step Unit := do
  let w ← Window.header
  blocks w (8 * (← get).source.size + 1) [4, 11, 15, 16]

def unpack (bytes : List UInt8) : Except ContainerFault Unpacked :=
  let (result, p) := all.runOn bytes
  match result with
  | .error .starved => .ok ⟨p.written.toList, none⟩
  | .error _ => .error .badStream
  | .ok () => if p.place / 8 < bytes.length then .error .trailing else .ok ⟨p.written.toList, none⟩

example : (unpack [0x8b, 0x00, 0x80, 0x7b, 0x7d, 0x03]).toOption = some ⟨[0x7b, 0x7d], none⟩ := by
  decide +kernel

end Matchday.Compression.Brotli
