set_option autoImplicit false

namespace Matchday.Text

/-- An inclusive range of whole numbers, with its name. -/
structure IntRange where
  name : String
  low : Int
  high : Int
  deriving DecidableEq, Repr

namespace IntRange

def i32 : IntRange := ⟨"i32", -2147483648, 2147483647⟩

def u16 : IntRange := ⟨"u16", 0, 65535⟩

def u32 : IntRange := ⟨"u32", 0, 4294967295⟩

def i64 : IntRange := ⟨"i64", -9223372036854775808, 9223372036854775807⟩

def u64 : IntRange := ⟨"u64", 0, 18446744073709551615⟩

def contains (r : IntRange) (n : Int) : Bool := r.low ≤ n && n ≤ r.high

end IntRange

def naturalFrom : Nat → List Char → Option Nat
  | acc, [] => some acc
  | acc, c :: cs => if c.isDigit then naturalFrom (acc * 10 + (c.toNat - 48)) cs else none

def natural? (cs : List Char) : Option Nat := if cs.isEmpty then none else naturalFrom 0 cs

/-- The number in a range that the whole text denotes; ranges without negative numbers know no
minus sign. -/
def integer? (r : IntRange) (s : String) : Option Int := do
  let n : Int ← match s.toList with
    | '+' :: cs => (natural? cs).map fun n => (n : Int)
    | '-' :: cs => if r.low < 0 then (natural? cs).map fun n => -(n : Int) else none
    | cs => (natural? cs).map fun n => (n : Int)
  if r.contains n then some n else none

end Matchday.Text
