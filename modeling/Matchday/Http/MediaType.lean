set_option autoImplicit false

namespace Matchday.Http

structure MediaType where
  subtype : List Char
  suffix : Option (List Char)
  deriving DecidableEq, Repr

namespace MediaType

def isToken (c : Char) : Bool := c.isAlphanum || "!#$%&'*+-.^_|~".toList.contains c || c.toNat == 96

def isQuoted (c : Char) : Bool := 31 < c.toNat && c != '"' && c.toNat != 127

def parametersFrom : Nat → List Char → Bool
  | _, [] => true
  | 0, _ => false
  | fuel + 1, ' ' :: cs => parametersFrom fuel cs
  | fuel + 1, cs =>
    let name := cs.takeWhile isToken
    match cs.drop name.length with
    | '=' :: cs =>
      if name.isEmpty then false
      else
        match cs with
        | '"' :: cs =>
          let value := cs.takeWhile isQuoted
          match cs.drop value.length with
          | '"' :: cs =>
            if value.isEmpty then false
            else
              match cs.dropWhile (· == ' ') with
              | [] => true
              | ';' :: cs => parametersFrom fuel cs
              | _ => false
          | _ => false
        | cs =>
          let value := cs.takeWhile isToken
          match cs.drop value.length with
          | [] => true
          | ';' :: cs => if value.isEmpty then false else parametersFrom fuel cs
          | _ => false
    | _ => false

def parameters (cs : List Char) : Bool := parametersFrom (cs.length + 1) cs

def splitSuffix (cs : List Char) : MediaType :=
  let suffix := (cs.reverse.takeWhile (· != '+')).reverse
  let rest := cs.take (cs.length - suffix.length - 1)
  if suffix.length < cs.length ∧ !rest.isEmpty then ⟨rest, some suffix⟩ else ⟨cs, none⟩

def parse? (text : String) : Option MediaType :=
  let cs := text.toList.map Char.toLower
  let kind := cs.takeWhile isToken
  match cs.drop kind.length with
  | '/' :: cs =>
    let subtype := cs.takeWhile isToken
    match cs.drop subtype.length with
    | [] => if kind.isEmpty then none else some (splitSuffix subtype)
    | ';' :: cs =>
      if kind.isEmpty ∨ subtype.isEmpty ∨ !parameters cs then none else some (splitSuffix subtype)
    | _ => none
  | _ => none

def isJson (m : MediaType) : Bool :=
  m.subtype == "json".toList || m.suffix == some "json".toList

example : (parse? "application/vnd.api+JSON; charset=utf-8").map isJson = some true := by decide +kernel

end MediaType

end Matchday.Http
