set_option autoImplicit false

namespace Matchday

def greatestVersion : Nat := 2147483647

structure Version where
  number : Nat
  one_le : 1 ≤ number
  le_greatest : number ≤ greatestVersion
  deriving DecidableEq, Repr

structure InvalidVersion where
  value : Int
  deriving DecidableEq, Repr

def InvalidVersion.message (e : InvalidVersion) : String := s!"version {e.value} is out of range"

namespace Version

def initial : Version := ⟨1, by decide, by decide⟩

def greatest : Version := ⟨greatestVersion, by decide, by decide⟩

def ofNat? (n : Nat) : Option Version :=
  if h : 1 ≤ n ∧ n ≤ greatestVersion then some ⟨n, h.1, h.2⟩ else none

def ofInt (n : Int) : Except InvalidVersion Version :=
  match ofNat? n.toNat with
  | some v => .ok v
  | none => .error ⟨n⟩

def toColumn (v : Version) : Int := min v.number greatestVersion

/-- The version after this one; the greatest one is its own successor. -/
def next (v : Version) : Version :=
  if h : v.number < greatestVersion then ⟨v.number + 1, by omega, h⟩ else greatest

@[ext] theorem ext {v w : Version} (h : v.number = w.number) : v = w := by
  cases v
  cases w
  cases h
  rfl

theorem number_next (v : Version) : v.next.number = min (v.number + 1) greatestVersion := by
  have h := v.le_greatest
  unfold next
  split
  · simp only
    omega
  · simp only [greatest]
    omega

theorem ofInt_number (v : Version) : ofInt v.number = .ok v := by
  have h : ofNat? v.number = some v := by simp [ofNat?, v.one_le, v.le_greatest]
  simp [ofInt, h]

end Version

end Matchday
