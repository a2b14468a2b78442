import Matchday.Compression.Bits

set_option autoImplicit false

namespace Matchday.Compression

/-- How many words there are of each length, from the length of one bit on, and the symbols in the
order of their words. -/
structure PrefixCode where
  counts : List Nat
  symbols : Array Nat
  deriving Repr

namespace PrefixCode

def longest : Nat := 15

def ofLengths (lengths : List Nat) : PrefixCode where
  counts := (List.range longest).map fun n => lengths.count (n + 1)
  symbols :=
    ((List.range longest).flatMap fun n =>
      (lengths.zipIdx.filter fun e => e.1 == n + 1).map Prod.snd).toArray

/-- The part of all words of the greatest length that begin with a word of the code; a whole code
has them all. -/
def share (c : PrefixCode) : Nat := c.counts.foldl (fun n count => 2 * n + count) 0

def isWhole (c : PrefixCode) : Bool := c.share == Nat.pow 2 longest

/-- Reads on a word of which `word` has been read, where the first word of its length is `first`
and its symbol has the place `place`. -/
def readFrom (symbols : Array Nat) : List Nat → Nat → Nat → Nat → Step Nat
  | [], _, _, _ => throw .corrupt
  | count :: counts, word, first, place => do
    let word := 2 * word + (← Step.bit)
    if word < first + count then pure (symbols.getD (place + (word - first)) 0)
    else readFrom symbols counts word (2 * (first + count)) (place + count)

def read (c : PrefixCode) : Step Nat := readFrom c.symbols c.counts 0 0 0

end PrefixCode

end Matchday.Compression
