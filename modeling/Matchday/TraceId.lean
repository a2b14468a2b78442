set_option autoImplicit false

namespace Matchday

structure TraceId where
  value : Nat
  deriving DecidableEq, Repr

namespace TraceId

def header : String := "trace-id"

def groups : List Nat := [8, 4, 4, 4, 12]

def hexDigit? (c : Char) : Option Nat :=
  let n := c.toNat
  if c.isDigit then some (n - 48)
  else if 97 ≤ n ∧ n ≤ 102 then some (n - 87)
  else if 65 ≤ n ∧ n ≤ 70 then some (n - 55)
  else none

def ofDigits : Nat → List Char → Option Nat
  | acc, [] => some acc
  | acc, c :: cs => (hexDigit? c).bind fun d => ofDigits (acc * 16 + d) cs

def unhyphenated : List Nat → List Char → Option (List Char)
  | [], [] => some []
  | [], _ => none
  | [n], cs => if cs.length = n then some cs else none
  | n :: ns, cs =>
    match cs.drop n with
    | '-' :: rest => (unhyphenated ns rest).map (cs.take n ++ ·)
    | _ => none

def unwrapped (cs : List Char) : List Char :=
  if cs.length = 38 ∧ cs.head? = some '{' ∧ cs.getLast? = some '}' then (cs.drop 1).dropLast
  else if cs.length = 45 ∧ (cs.take 9).map Char.toLower = "urn:uuid:".toList then cs.drop 9
  else cs

def parse? (text : String) : Option TraceId :=
  let cs := text.toList
  let digits? := if cs.length = 32 then some cs else unhyphenated groups (unwrapped cs)
  (digits?.bind (ofDigits 0)).map TraceId.mk

def hyphenated : List Nat → List Char → List Char
  | [], cs => cs
  | [_], cs => cs
  | n :: ns, cs => cs.take n ++ '-' :: hyphenated ns (cs.drop n)

def render (t : TraceId) : String :=
  let ds := Nat.toDigits 16 t.value
  String.ofList (hyphenated groups (List.replicate (32 - ds.length) '0' ++ ds))

example : (parse? "3FA85F64-5717-4562-B3FC-2C963F66AFA6").map render =
    some "3fa85f64-5717-4562-b3fc-2c963f66afa6" := by decide +kernel

end TraceId

end Matchday
