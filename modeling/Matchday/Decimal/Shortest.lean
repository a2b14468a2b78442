import Matchday.Decimal.Binary64

set_option autoImplicit false

/-!
# The shortest decimal of a double

The fewest digits that read back as the same double, and of those the nearest to it. A decimal reads
back as the double if it lies between the midpoints to the neighbouring doubles; the midpoints
themselves do so for an even mantissa.
-/
namespace Matchday.Shortest

open Matchday

structure Decimal where
  digits : Nat
  exponent : Int
  deriving DecidableEq, Repr

/-- The reals that round to a double, in units of `1 / den`. -/
structure Interval where
  low : Nat
  value : Nat
  high : Nat
  den : Nat
  closed : Bool
  deriving DecidableEq, Repr

def Interval.ofDouble (x : Binary64) : Interval :=
  let step := if x.mantissa = Nat.pow 2 52 ∧ x.exponent ≠ Binary64.leastExponent then 1 else 2
  let up := Nat.pow 2 (x.exponent - 2).toNat
  { low := (4 * x.mantissa - step) * up
    value := 4 * x.mantissa * up
    high := (4 * x.mantissa + 2) * up
    den := Nat.pow 2 (2 - x.exponent).toNat
    closed := x.mantissa % 2 == 0 }

def Interval.contains (i : Interval) (num den : Nat) : Bool :=
  if i.closed then i.low * den ≤ num * i.den && num * i.den ≤ i.high * den
  else i.low * den < num * i.den && num * i.den < i.high * den

def digitCount (n : Nat) : Nat := (Nat.toDigits 10 n).length

def leadingPower (num den : Nat) : Int :=
  if den ≤ num then (digitCount (num / den) : Int) - 1 else -(digitCount ((den - 1) / num) : Int)

def asQuotient (d : Nat) (k : Int) : Nat × Nat :=
  if 0 ≤ k then (d * Nat.pow 10 k.toNat, 1) else (d, Nat.pow 10 (-k).toNat)

/-- The multiple of 10 ^ `k` in the interval that is nearest to its value, if there is one. -/
def onGrid? (i : Interval) (k : Int) : Option Nat :=
  let (n, d) :=
    if 0 ≤ k then (i.value, i.den * Nat.pow 10 k.toNat)
    else (i.value * Nat.pow 10 (-k).toNat, i.den)
  let below := n / d
  let inside (c : Nat) : Bool := let (p, q) := asQuotient c k; i.contains p q
  let r := 2 * (n % d)
  match inside below, inside (below + 1) with
  | true, true =>
    some (if r < d then below else if d < r then below + 1 else below + below % 2)
  | true, false => some below
  | false, true => some (below + 1)
  | false, false => none

/-- Tries one digit more until the grid is fine enough. -/
def search (i : Interval) : Nat → Int → Decimal
  | 0, k => ⟨(onGrid? i k).getD 0, k⟩
  | fuel + 1, k =>
    match onGrid? i k with
    | some d => ⟨d, k⟩
    | none => search i fuel (k - 1)

def ofDouble (x : Binary64) : Decimal :=
  let i := Interval.ofDouble x
  search i 17 (leadingPower i.value i.den)

/-- How a decimal is laid out: positional from 10 ^ `least` to below 10 ^ `beyond`. -/
structure Layout where
  least : Int
  beyond : Int

def jsonLayout : Layout := ⟨-5, 16⟩

def zeros (n : Nat) : List Char := List.replicate n '0'

def significant (d : Nat) : List Char :=
  ((Nat.toDigits 10 d).reverse.dropWhile (· == '0')).reverse

def Layout.write (l : Layout) (d : Decimal) : List Char :=
  let power : Int := d.exponent + digitCount d.digits - 1
  let ds := significant d.digits
  if l.least ≤ power ∧ power < l.beyond then
    if power < 0 then '0' :: '.' :: zeros (-power - 1).toNat ++ ds
    else
      let whole := (power + 1).toNat
      if ds.length ≤ whole then ds ++ zeros (whole - ds.length) ++ ['.', '0']
      else ds.take whole ++ '.' :: ds.drop whole
  else
    let head := match ds with
      | [] => []
      | [c] => [c]
      | c :: cs => c :: '.' :: cs
    let sign := if power < 0 then '-' else '+'
    head ++ 'e' :: sign :: Nat.toDigits 10 power.natAbs

def write (x : Binary64) : List Char :=
  let magnitude := if x.isZero then ['0', '.', '0'] else jsonLayout.write (ofDouble x)
  if x.negative then '-' :: magnitude else magnitude

end Matchday.Shortest
