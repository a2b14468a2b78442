set_option autoImplicit false

namespace Matchday

structure Table (α : Type) where
  entries : List (Int × α)
  deriving DecidableEq, Repr

namespace Table

variable {α : Type}

def empty : Table α := ⟨[]⟩

def get? (t : Table α) (k : Int) : Option α := t.entries.lookup k

def contains (t : Table α) (k : Int) : Bool := (t.get? k).isSome

def insertEntry (k : Int) (a : α) : List (Int × α) → List (Int × α)
  | [] => [(k, a)]
  | (l, b) :: rest =>
    if k < l then (k, a) :: (l, b) :: rest
    else if k = l then (k, a) :: rest
    else (l, b) :: insertEntry k a rest

def insert (t : Table α) (k : Int) (a : α) : Table α := ⟨insertEntry k a t.entries⟩

def erase (t : Table α) (k : Int) : Table α := ⟨t.entries.filter fun e => e.1 != k⟩

def values (t : Table α) : List α := t.entries.map Prod.snd

def find? (t : Table α) (p : α → Bool) : Option α := t.values.find? p

def keysWhere (t : Table α) (p : α → Bool) : List Int :=
  (t.entries.filter fun e => p e.2).map Prod.fst

def without (t : Table α) (p : α → Bool) : Table α := ⟨t.entries.filter fun e => !p e.2⟩

end Table

/-- A table whose keys are handed out one after another and never again. -/
structure Numbered (α : Type) where
  rows : Table α
  last : Int
  deriving DecidableEq, Repr

namespace Numbered

variable {α : Type}

def empty : Numbered α := ⟨Table.empty, 0⟩

def greatestId : Int := 2147483647

/-- The next id, while there is one. -/
def nextId? (t : Numbered α) : Option Int :=
  if t.last < greatestId then some (t.last + 1) else none

end Numbered

end Matchday
