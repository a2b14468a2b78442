import Matchday.Compression.PrefixCode

set_option autoImplicit false

namespace Matchday.Compression.Brotli

inductive Code
  | single (symbol : Nat)
  | words (code : PrefixCode)
  deriving Repr

instance : Inhabited Code := ⟨.single 0⟩

/-- The symbols of an alphabet: the least number that could not be one as its bits go, and the least
that is not one. -/
structure Alphabet where
  room : Nat
  size : Nat := room
  deriving Repr

namespace Alphabet

def symbol (a : Alphabet) : Step Nat := do
  let symbol ← Step.bits (if a.room ≤ 1 then 0 else Nat.log2 (a.room - 1) + 1)
  if a.size ≤ symbol then throw .corrupt
  pure symbol

end Alphabet

namespace Code

def read : Code → Step Nat
  | single symbol => pure symbol
  | words code => code.read

def ofPairs (size : Nat) (pairs : List (Nat × Nat)) : Code :=
  words (.ofLengths ((List.range size).map fun s => (pairs.lookup s).getD 0))

def simple (a : Alphabet) : Step Code := do
  let number := (← Step.bits 2) + 1
  let symbols ← (List.replicate number ()).mapM fun _ => a.symbol
  if !decide symbols.Nodup then throw .corrupt
  match symbols with
  | [symbol] => pure (single symbol)
  | [_, _] => pure (ofPairs a.size (symbols.zip [1, 1]))
  | [_, _, _] => pure (ofPairs a.size (symbols.zip [1, 2, 2]))
  | _ =>
    let isSteep := (← Step.bit) = 1
    pure (ofPairs a.size (symbols.zip (if isSteep then [1, 2, 3, 3] else [2, 2, 2, 2])))

def lengthOrder : List Nat := [1, 2, 3, 4, 0, 5, 17, 6, 16, 7, 8, 9, 10, 11, 12, 13, 14, 15]

def lengthOfLength : Step Nat := do
  match ← Step.bits 2 with
  | 0 => pure 0
  | 1 => pure 4
  | 2 => pure 3
  | _ => if (← Step.bit) = 0 then pure 2 else if (← Step.bit) = 0 then pure 1 else pure 5

def lengthsOfLengths : List Nat → Nat → List (Nat × Nat) → Step Code
  | symbol :: order, spent, found =>
    if spent < 32 then do
      let length ← lengthOfLength
      if length = 0 then lengthsOfLengths order spent found
      else lengthsOfLengths order (spent + 32 / Nat.pow 2 length) ((symbol, length) :: found)
    else finish spent found
  | [], spent, found => finish spent found
where
  finish (spent : Nat) (found : List (Nat × Nat)) : Step Code :=
    match found with
    | [(symbol, _)] => pure (single symbol)
    | _ => if spent = 32 then pure (ofPairs 18 found) else throw .corrupt

/-- Lengths read so far, the newest first: what part of all words of the greatest length they take,
the last that is not zero, and which length has last been repeated how often. -/
structure Lengths where
  found : List Nat := []
  spent : Nat := 0
  last : Nat := 8
  repeated : Nat := 0
  times : Nat := 0

namespace Lengths

def push (l : Lengths) (length : Nat) : Lengths :=
  if length = 0 then { l with found := 0 :: l.found, times := 0 }
  else
    { l with
      found := length :: l.found
      spent := l.spent + Nat.pow 2 (15 - length)
      last := length
      times := 0 }

/-- Repeats a length; a symbol that repeats it once more has the high digits of the number. -/
def extend (l : Lengths) (length width digit : Nat) : Lengths :=
  let before := if l.repeated = length then l.times else 0
  let times := (if before = 0 then 0 else (before - 2) * Nat.pow 2 width) + digit + 3
  let added := times - before
  { l with
    found := List.replicate added length ++ l.found
    spent := if length = 0 then l.spent else l.spent + added * Nat.pow 2 (15 - length)
    repeated := length
    times }

end Lengths

def lengths (code : Code) (size : Nat) : Nat → Lengths → Step Lengths
  | 0, l => pure l
  | fuel + 1, l =>
    if size ≤ l.found.length ∨ l.spent = Nat.pow 2 15 then pure l
    else do
      let s ← code.read
      if s < 16 then lengths code size fuel (l.push s)
      else
        let (length, width) := if s = 16 then (l.last, 2) else (0, 3)
        lengths code size fuel (l.extend length width (← Step.bits width))

def ofAlphabet (a : Alphabet) : Step Code := do
  let skipped ← Step.bits 2
  if skipped = 1 then simple a
  else
    let code ← lengthsOfLengths (lengthOrder.drop skipped) 0 []
    let l ← lengths code a.size (a.size + 1) {}
    if a.size < l.found.length ∨ l.spent ≠ Nat.pow 2 15 then throw .corrupt
    pure (words (.ofLengths l.found.reverse))

end Code

def smallNumber : Step Nat := do
  if (← Step.bit) = 0 then pure 1
  else
    let width ← Step.bits 3
    return 1 + Nat.pow 2 width + (← Step.bits width)

def countRanges : List (Nat × Nat) :=
  Step.rangesFrom 1
    [2, 2, 2, 2, 3, 3, 3, 3, 4, 4, 4, 4, 5, 5, 5, 5, 6, 6, 7, 8, 9, 10, 11, 12, 13, 24]

structure Blocks where
  types : Nat
  typeCode : Code
  countCode : Code
  type : Nat := 0
  lastType : Nat := 1
  left : Nat

namespace Blocks

def count (code : Code) : Step Nat := do Step.within countRanges[← code.read]?

def header : Step Blocks := do
  let types ← smallNumber
  if types = 1 then pure { types, typeCode := default, countCode := default, left := Nat.pow 2 24 }
  else
    let typeCode ← Code.ofAlphabet { room := types + 2 }
    let countCode ← Code.ofAlphabet { room := 26 }
    return { types, typeCode, countCode, left := ← count countCode }

def next (b : Blocks) : Step Blocks := do
  if 0 < b.left ∨ b.types = 1 then pure { b with left := b.left - 1 }
  else
    let type := match ← b.typeCode.read with
      | 0 => b.lastType
      | 1 => (b.type + 1) % b.types
      | s + 2 => s
    return { b with type, lastType := b.type, left := (← count b.countCode) - 1 }

end Blocks

/-- Reads which of some codes each context has, at most so many symbols; runs of zeros have symbols
of their own. -/
def contextsFrom (code : Code) (runs size : Nat) : Nat → List Nat → Step (List Nat)
  | 0, _ => throw .corrupt
  | fuel + 1, found =>
    if found.length = size then pure found.reverse
    else if size < found.length then throw .corrupt
    else do
      let s ← code.read
      if runs < s then contextsFrom code runs size fuel ((s - runs) :: found)
      else
        let length := Nat.pow 2 s + (← Step.bits s)
        contextsFrom code runs size fuel (List.replicate length 0 ++ found)

/-- Numbers for places in a list, in which each number moves to the front when it has been given. -/
def movedToFront : List Nat → List Nat → List Nat
  | _, [] => []
  | order, place :: places =>
    let n := order.getD place 0
    n :: movedToFront (n :: order.eraseIdx place) places

def contextMap (size : Nat) : Step (Nat × Array Nat) := do
  let codes ← smallNumber
  if codes = 1 then pure (1, Array.replicate size 0)
  else
    let hasRuns ← Step.bit
    let runs ← if hasRuns = 0 then pure 0 else (· + 1) <$> Step.bits 4
    let code ← Code.ofAlphabet { room := codes + runs }
    let contexts ← contextsFrom code runs size (size + 1) []
    let isMoved := (← Step.bit) = 1
    let contexts := if isMoved then movedToFront (List.range 256) contexts else contexts
    pure (codes, contexts.toArray)

end Matchday.Compression.Brotli
