import Matchday.Decimal.Shortest

set_option autoImplicit false

namespace Matchday

inductive Json
  | null
  | bool (b : Bool)
  | int (n : Int)
  | float (x : Binary64)
  | str (s : String)
  | arr (items : List Json)
  | obj (members : List (String × Json))
  deriving Repr, Inhabited

namespace Json

def hexDigit (n : Nat) : Char := (Nat.toDigits 16 (n % 16)).headD '0'

def escape (c : Char) : List Char :=
  if c = '"' then ['\\', '"']
  else if c = '\\' then ['\\', '\\']
  else if c = '\n' then ['\\', 'n']
  else if c = '\r' then ['\\', 'r']
  else if c = '\t' then ['\\', 't']
  else if c = '\x08' then ['\\', 'b']
  else if c = '\x0c' then ['\\', 'f']
  else if c.toNat < 32 then ['\\', 'u', '0', '0', hexDigit (c.toNat / 16), hexDigit c.toNat]
  else [c]

def quote (s : String) : List Char := '"' :: s.toList.flatMap escape ++ ['"']

def writeInt (n : Int) : List Char := (toString n).toList

mutual

def chars : Json → List Char
  | null => ['n', 'u', 'l', 'l']
  | bool true => ['t', 'r', 'u', 'e']
  | bool false => ['f', 'a', 'l', 's', 'e']
  | int n => writeInt n
  | float x => Shortest.write x
  | str s => quote s
  | arr items => '[' :: charsOfItems items ++ [']']
  | obj members => '{' :: charsOfMembers members ++ ['}']

def charsOfItems : List Json → List Char
  | [] => []
  | [x] => chars x
  | x :: y :: rest => chars x ++ ',' :: charsOfItems (y :: rest)

def charsOfMembers : List (String × Json) → List Char
  | [] => []
  | [(k, x)] => quote k ++ ':' :: chars x
  | (k, x) :: m :: rest => quote k ++ ':' :: chars x ++ ',' :: charsOfMembers (m :: rest)

end

def render (j : Json) : String := String.ofList j.chars

def insertMember (k : String) (v : Json) : List (String × Json) → List (String × Json)
  | [] => [(k, v)]
  | (l, w) :: rest =>
    if k = l then (k, v) :: rest
    else if k < l then (k, v) :: (l, w) :: rest
    else (l, w) :: insertMember k v rest

def sortedObj (members : List (String × Json)) : Json :=
  obj (members.foldl (fun acc (k, v) => insertMember k v acc) [])

def get? (j : Json) (key : String) : Option Json :=
  match j with
  | obj members => members.lookup key
  | _ => none

end Json

end Matchday
