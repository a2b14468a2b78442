import Matchday.Json.Reader
import Matchday.Text.Integer

set_option autoImplicit false

/-!
# Codecs and records

A codec writes the values of a type as JSON and reads them back. A record describes a structure by
its fields in order: it is written as an object, and read from an object in any order of members or
from an array of its fields. Unknown members are passed over.
-/
namespace Matchday.Json

open Matchday.Text
open Matchday.Json.Read

structure Codec (α : Type) where
  encode : α → Json
  read : Reader α

namespace Codec

def integer (r : IntRange) : Codec Int where
  encode := .int
  read cs := do
    match ← found cs with
    | (.int n, cs) => if r.contains n then pure (n, cs) else throw (.invalidValue n r.name)
    | (f, _) => throw (.invalidType f r.name)

def i32 : Codec Int := integer .i32

def i64 : Codec Int := integer .i64

def u32 : Codec Int := integer .u32

def u64 : Codec Int := integer .u64

def string : Codec String where
  encode := .str
  read cs := do
    match ← found cs with
    | (.str s, cs) => pure (s, cs)
    | (f, _) => throw (.invalidType f "a string")

def bool : Codec Bool where
  encode := .bool
  read cs := do
    match ← found cs with
    | (.bool b, cs) => pure (b, cs)
    | (f, _) => throw (.invalidType f "a boolean")

def json : Codec Json where
  encode := id
  read := value (nestingLimit - 1)

def option {α : Type} (c : Codec α) : Codec (Option α) where
  encode
    | some a => c.encode a
    | none => .null
  read cs :=
    match blanks cs with
    | some 'n' :: cs => word none ['u', 'l', 'l'] cs
    | _ => (c.read cs).map fun (a, cs) => (some a, cs)

def named {α : Type} (all : List α) (name : α → String) (s : String) : Except ReadError α :=
  match all.find? fun a => name a == s with
  | some a => .ok a
  | none => .error (.unknownVariant s (all.map name))

def variant {α : Type} (all : List α) (name : α → String) : Codec α where
  encode a := .str (name a)
  read cs := do
    match blanks cs with
    | some '"' :: cs => do
      let (s, cs) ← Read.string cs
      pure (← named all name s, cs)
    | some '{' :: cs => do
      match ← found cs with
      | (.str s, cs) => do
        let a ← named all name s
        let cs ← mark ':' cs
        match ← found cs with
        | (.null, cs) => do pure (a, ← mark '}' cs)
        | (f, _) => throw (.invalidType f "unit")
      | (f, _) => throw (.invalidType f "variant identifier")
    | _ => throw .malformed

end Codec

structure Field (α : Type) where
  name : String
  codec : Codec α
  ifMissing : Option α
  ifShort : Option α
  omits : α → Bool

/-- The fields of a record in order; `ρ` is the type of their values and `σ` of those read so far. -/
inductive Fields : Type → Type → Type 1
  | nil : Fields Unit Unit
  | cons {α ρ σ : Type} (field : Field α) (rest : Fields ρ σ) : Fields (α × ρ) (Option α × σ)

namespace Fields

variable {α ρ σ : Type}

def required (name : String) (c : Codec α) (rest : Fields ρ σ) : Fields (α × ρ) (Option α × σ) :=
  .cons ⟨name, c, none, none, fun _ => false⟩ rest

def nullable (name : String) (c : Codec α) (rest : Fields ρ σ) :
    Fields (Option α × ρ) (Option (Option α) × σ) :=
  .cons ⟨name, c.option, some none, none, fun _ => false⟩ rest

def optional (name : String) (c : Codec α) (rest : Fields ρ σ) :
    Fields (Option α × ρ) (Option (Option α) × σ) :=
  .cons ⟨name, c.option, some none, none, Option.isNone⟩ rest

def trailing (name : String) (c : Codec α) (rest : Fields ρ σ) :
    Fields (Option α × ρ) (Option (Option α) × σ) :=
  .cons ⟨name, c.option, some none, some none, Option.isNone⟩ rest

def names : {ρ σ : Type} → Fields ρ σ → List String
  | _, _, nil => []
  | _, _, cons f rest => f.name :: rest.names

def requiredNames : {ρ σ : Type} → Fields ρ σ → List String
  | _, _, nil => []
  | _, _, cons f rest =>
    if f.ifMissing.isNone then f.name :: rest.requiredNames else rest.requiredNames

def members : {ρ σ : Type} → Fields ρ σ → ρ → List (String × Json)
  | _, _, nil, _ => []
  | _, _, cons f rest, (a, row) =>
    if f.omits a then rest.members row else (f.name, f.codec.encode a) :: rest.members row

def unread : {ρ σ : Type} → Fields ρ σ → σ
  | _, _, nil => ()
  | _, _, cons _ rest => (none, rest.unread)

/-- Reads the value of a key into its place, where it may not be twice; none for an unknown key. -/
def place : {ρ σ : Type} → Fields ρ σ → String → σ → List Symbol →
    Option (Except ReadError (σ × List Symbol))
  | _, _, nil, _, _, _ => none
  | _, _, cons f rest, key, (slot, slots), cs =>
    if f.name = key then
      match slot with
      | some _ => some (.error (.duplicateField f.name))
      | none => some ((keyed f.codec.read cs).map fun (a, cs) => ((some a, slots), cs))
    else (rest.place key slots cs).map fun r => r.map fun (slots, cs) => ((slot, slots), cs)

/-- The values of all fields, with those of fields that may be missing. -/
def collect : {ρ σ : Type} → Fields ρ σ → σ → Except ReadError ρ
  | _, _, nil, _ => .ok ()
  | _, _, cons f rest, (slot, slots) =>
    match slot <|> f.ifMissing with
    | some a => (rest.collect slots).map fun row => (a, row)
    | none => .error (.missingField f.name)

/-- Reads one member, known or not, after its key; the fuel is for one that is not. -/
def member (fs : Fields ρ σ) (fuel : Nat) (key : String) (slots : σ) (cs : List Symbol) :
    Except ReadError (σ × List Symbol) :=
  match fs.place key slots cs with
  | some r => r
  | none => do
    let cs ← pass fuel (← mark ':' cs)
    pure (slots, cs)

def readMembers (fs : Fields ρ σ) : Nat → Bool → σ → List Symbol →
    Except ReadError (σ × List Symbol)
  | 0, _, _, _ => .error .malformed
  | fuel + 1, first, slots, cs =>
    match nextKey first cs with
    | .error e => .error e
    | .ok none => .ok (slots, cs)
    | .ok (some (key, cs)) =>
      match fs.member (fuel + 1) key slots cs with
      | .error e => .error e
      | .ok (slots, cs) => readMembers fs fuel false slots cs

def readItems (expected : String) : {ρ σ : Type} → Fields ρ σ → Nat → Bool → List Symbol →
    Except ReadError (ρ × List Symbol)
  | _, _, nil, _, _, cs => .ok ((), cs)
  | _, _, cons f rest, index, first, cs => do
    match ← nextItem first cs with
    | none =>
      match f.ifShort with
      | none => throw (.invalidLength index expected)
      | some a => do
        let (row, cs) ← rest.readItems expected (index + 1) first cs
        pure ((a, row), cs)
    | some cs => do
      let (a, cs) ← f.codec.read cs
      let (row, cs) ← rest.readItems expected (index + 1) false cs
      pure ((a, row), cs)

end Fields

structure Record (α : Type) where
  name : String
  {Row : Type}
  {Slots : Type}
  fields : Fields Row Slots
  toRow : α → Row
  ofRow : Row → α

namespace Record

variable {α : Type}

def expected (r : Record α) : String := s!"struct {r.name}"

def expectedItems (r : Record α) : String :=
  let n := r.fields.names.length
  let unit := if n = 1 then "element" else "elements"
  s!"struct {r.name} with {n} {unit}"

def encode (r : Record α) (a : α) : Json := .obj (r.fields.members (r.toRow a))

def read (r : Record α) (cs : List Symbol) : Except ReadError (α × List Symbol) := do
  match ← found cs with
  | (.sequence, cs) => do
    let (row, cs) ← r.fields.readItems r.expectedItems 0 true cs
    pure (r.ofRow row, ← mark ']' cs)
  | (.map, cs) => do
    let (slots, cs) ← r.fields.readMembers (cs.length + 1) true r.fields.unread cs
    let row ← r.fields.collect slots
    pure (r.ofRow row, ← mark '}' cs)
  | (f, _) => throw (.invalidType f r.expected)

def codec (r : Record α) : Codec α := ⟨r.encode, r.read⟩

end Record

namespace Codec

variable {α : Type}

def text (c : Codec α) (a : α) : String := (c.encode a).render

def ofSymbols (c : Codec α) (cs : List Symbol) : Except ReadError α := whole c.read cs

def ofText (c : Codec α) (s : String) : Except ReadError α := c.ofSymbols (symbols s)

def ofBytes (c : Codec α) (bytes : List UInt8) : Except ReadError α := c.ofSymbols (Utf8.decode bytes)

end Codec

end Matchday.Json
