set_option autoImplicit false

namespace Matchday

/-- The value ± `mantissa` · 2 ^ `exponent`. -/
structure Binary64 where
  negative : Bool
  mantissa : Nat
  exponent : Int
  deriving DecidableEq, Repr

namespace Binary64

def leastExponent : Int := -1074

def greatestExponent : Int := 971

def zero (negative : Bool) : Binary64 := ⟨negative, 0, leastExponent⟩

def isZero (x : Binary64) : Bool := x.mantissa == 0

def neg (x : Binary64) : Binary64 := { x with negative := !x.negative }

def roundDiv (num den : Nat) : Nat :=
  let q := num / den
  let r := num % den
  if 2 * r < den then q
  else if den < 2 * r then q + 1
  else if q % 2 = 0 then q
  else q + 1

def unscale (num den : Nat) (e : Int) : Nat × Nat :=
  if 0 ≤ e then (num, den * Nat.pow 2 e.toNat) else (num * Nat.pow 2 (-e).toNat, den)

/-- The exponent at which a positive quotient has a mantissa of 53 bits, or the least one. -/
def fittingExponent (num den : Nat) : Int :=
  let e : Int := (num.log2 : Int) - den.log2 - 52
  let (n, d) := unscale num den e
  max leastExponent (if n / d < Nat.pow 2 52 then e - 1 else e)

/-- The double nearest to ± `num / den`; none where that is beyond the largest double. -/
def ofQuotient? (negative : Bool) (num den : Nat) : Option Binary64 :=
  if num = 0 then some (zero negative)
  else
    let e := fittingExponent num den
    let (n, d) := unscale num den e
    let m := roundDiv n d
    let (m, e) := if m = Nat.pow 2 53 then (Nat.pow 2 52, e + 1) else (m, e)
    if e ≤ greatestExponent then some ⟨negative, m, e⟩ else none

def quotient (x : Binary64) : Nat × Nat :=
  if 0 ≤ x.exponent then (x.mantissa * Nat.pow 2 x.exponent.toNat, 1)
  else (x.mantissa, Nat.pow 2 (-x.exponent).toNat)

def ofNat? (n : Nat) : Option Binary64 := ofQuotient? false n 1

def mul? (x y : Binary64) : Option Binary64 :=
  let (a, b) := x.quotient
  let (c, d) := y.quotient
  ofQuotient? (x.negative != y.negative) (a * c) (b * d)

def div? (x y : Binary64) : Option Binary64 :=
  let (a, b) := x.quotient
  let (c, d) := y.quotient
  ofQuotient? (x.negative != y.negative) (a * d) (b * c)

def greatestPower : Nat := 308

def powerOfTen? (k : Nat) : Option Binary64 := ofQuotient? false (Nat.pow 10 k) 1

def scaleUp? (x : Binary64) (k : Nat) : Option Binary64 := do
  x.mul? (← powerOfTen? k)

/-- `x` / 10 ^ `k`, rounded once for every 308 powers begun. -/
def scaleDown? (x : Binary64) (k : Nat) : Option Binary64 :=
  if k ≤ greatestPower then do x.div? (← powerOfTen? k)
  else if x.isZero then some x
  else do
    let y ← x.div? (← powerOfTen? greatestPower)
    scaleDown? y (k - greatestPower)
  termination_by k
  decreasing_by simp only [greatestPower] at *; omega

example : (ofNat? 1).bind (·.div? ⟨false, 10, 0⟩) = some ⟨false, 7205759403792794, -56⟩ := by decide

end Binary64

end Matchday
