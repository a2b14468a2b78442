import Matchday.HostName
import Matchday.Text.Percent

set_option autoImplicit false

namespace Matchday.Live

open Matchday.Text

inductive Host
  | name (s : String)
  | address (written : String)
  deriving DecidableEq, Repr

structure Origin where
  scheme : String
  host : Option Host
  port : Option Nat
  deriving DecidableEq, Repr

namespace Origin

inductive SchemeKind
  | network (port : Nat)
  | file
  | other
  deriving DecidableEq, Repr

def schemeKind (scheme : String) : SchemeKind :=
  if scheme = "http" ∨ scheme = "ws" then .network 80
  else if scheme = "https" ∨ scheme = "wss" then .network 443
  else if scheme = "ftp" then .network 21
  else if scheme = "file" then .file
  else .other

def SchemeKind.isOther : SchemeKind → Bool
  | .other => true
  | _ => false

def isSchemeChar (c : Char) : Bool := c.isAlphanum || c == '+' || c == '-' || c == '.'

def splitScheme? (cs : List Char) : Option (String × List Char) :=
  let scheme := cs.takeWhile isSchemeChar
  match scheme, cs.drop scheme.length with
  | c :: _, ':' :: rest =>
    if c.isAlpha then some (String.ofList (scheme.map Char.toLower), rest) else none
  | _, _ => none

def digitValue? (base : Nat) (c : Char) : Option Nat :=
  let n := c.toNat
  let d? :=
    if c.isDigit then some (n - 48)
    else if 97 ≤ n ∧ n ≤ 102 then some (n - 87)
    else if 65 ≤ n ∧ n ≤ 70 then some (n - 55)
    else none
  d?.filter fun d => d < base

def numeral? (base : Nat) (cs : List Char) : Option Nat :=
  cs.foldl (fun acc c => do pure ((← acc) * base + (← digitValue? base c))) (some 0)

/-- A number in decimal, after `0x` in hexadecimal or after a zero in octal digits. -/
def addressNumber? : List Char → Option Nat
  | [] => none
  | '0' :: x :: cs => if x = 'x' ∨ x = 'X' then numeral? 16 cs else numeral? 8 (x :: cs)
  | cs => numeral? 10 cs

/-- Whether the last label of a host, but for an empty one, is a number. -/
def endsInNumber (labels : List (List Char)) : Bool :=
  let labels := match labels.reverse with
    | [] :: l :: rest => l :: rest
    | ls => ls
  match labels with
  | l :: _ => !l.isEmpty && (l.all Char.isDigit || (addressNumber? l).isSome)
  | [] => false

/-- Whether labels are an address of four bytes, of which the last number takes all that are left. -/
def isAddress4 (labels : List (List Char)) : Bool :=
  let labels := match labels.reverse with
    | [] :: l :: rest => l :: rest
    | ls => ls
  match labels.mapM addressNumber? with
  | some (last :: others) =>
    others.length < 4 && others.all (· < 256) && last < Nat.pow 256 (4 - others.length)
  | _ => false

def isByte (cs : List Char) : Bool :=
  !cs.isEmpty && cs.all Char.isDigit && (cs.length == 1 || cs.head? != some '0')
    && (numeral? 10 cs).any (· < 256)

/-- The number of groups of two bytes that a list of parts stands for; its last part may be an
address of four bytes. -/
def groupCount? : List (List Char) → Option Nat
  | [] => some 0
  | [part] =>
    let bytes := part.splitOn '.'
    if bytes.length = 4 ∧ bytes.all isByte then some 2
    else if 1 ≤ part.length ∧ part.length ≤ 4 ∧ (numeral? 16 part).isSome then some 1
    else none
  | part :: parts =>
    if 1 ≤ part.length ∧ part.length ≤ 4 ∧ (numeral? 16 part).isSome then
      (groupCount? parts).map (· + 1)
    else none

def splitGap : List Char → Option (List Char × List Char)
  | ':' :: ':' :: rest => some ([], rest)
  | c :: rest => (splitGap rest).map fun (before, after) => (c :: before, after)
  | [] => none

def partsOf (cs : List Char) : List (List Char) := if cs.isEmpty then [] else cs.splitOn ':'

def isAddress16 (cs : List Char) : Bool :=
  match splitGap cs with
  | none => groupCount? (partsOf cs) == some 8
  | some (before, after) =>
    !(before.contains '.') &&
      match groupCount? (partsOf before), groupCount? (partsOf after) with
      | some m, some n => m + n ≤ 7
      | _, _ => false

def host? (written : List Char) : Option Host :=
  match written with
  | '[' :: rest =>
    match rest.reverse with
    | ']' :: inner =>
      if isAddress16 inner.reverse then some (.address (String.ofList written)) else none
    | _ => none
  | _ => do
    let labels ← HostName.labels? (Percent.decodeText (String.ofList written)).toList
    let name := String.ofList (['.'].intercalate labels)
    if name.isEmpty then none
    else if endsInNumber labels then
      if isAddress4 labels then some (.address name) else none
    else some (.name name)

def endsAuthority (k : SchemeKind) (c : Char) : Bool :=
  c == '/' || c == '?' || c == '#' || (c == '\\' && !k.isOther)

def afterUser (cs : List Char) : List Char := (cs.reverse.takeWhile (· != '@')).reverse

/-- The host and what follows it; a colon in brackets belongs to the host. -/
def splitHost (bracketed : Bool) : List Char → List Char × List Char
  | [] => ([], [])
  | c :: cs =>
    if c = ':' ∧ !bracketed then ([], c :: cs)
    else
      let (host, rest) := splitHost (if c = '[' then true else if c = ']' then false else bracketed) cs
      (c :: host, rest)

def port? : List Char → Option (Option Nat)
  | [] => some none
  | ':' :: cs =>
    if cs.isEmpty then some none
    else if cs.all Char.isDigit then
      ((numeral? 10 cs).filter (· ≤ 65535)).map some
    else none
  | _ => none

/-- Host and port of an authority, which has no empty host beside a user or a port. -/
def authority? (k : SchemeKind) (scheme : String) (cs : List Char) : Option Origin := do
  let cs := cs.takeWhile fun c => !endsAuthority k c
  let place := afterUser cs
  let (written, rest) := splitHost false place
  let port ← port? rest
  match k with
  | .network own => do
    let host ← host? written
    some ⟨scheme, some host, port.filter (· != own)⟩
  | _ =>
    if written.isEmpty then
      if place.length = cs.length ∧ rest.isEmpty then some ⟨scheme, none, none⟩ else none
    else if written.head? = some '[' then do
      let host ← host? written
      some ⟨scheme, some host, port⟩
    else if written.any fun c => c != '%' && HostName.isForbidden c then none
    else some ⟨scheme, some (.name (String.ofList written)), port⟩

def isDisk : List Char → Bool
  | [c, d] => c.isAlpha && (d == ':' || d == '|')
  | _ => false

def isSlash (c : Char) : Bool := c == '/' || c == '\\'

def file? (scheme : String) : List Char → Option Origin
  | a :: b :: rest =>
    if isSlash a ∧ isSlash b then
      let written := rest.takeWhile fun c => !endsAuthority .file c
      if written.isEmpty ∨ isDisk written then some ⟨scheme, none, none⟩
      else (host? written).map fun h => ⟨scheme, if h = .name "localhost" then none else some h, none⟩
    else some ⟨scheme, none, none⟩
  | _ => some ⟨scheme, none, none⟩

def trimmed (text : String) : List Char :=
  let isEdge (c : Char) : Bool := c.toNat ≤ 32
  let cs := ((text.toList.dropWhile isEdge).reverse.dropWhile isEdge).reverse
  cs.filter fun c => c != '\t' && c != '\n' && c != '\r'

def parse? (text : String) : Option Origin := do
  let (scheme, rest) ← splitScheme? (trimmed text)
  match schemeKind scheme with
  | .network own => authority? (.network own) scheme (rest.dropWhile isSlash)
  | .file => file? scheme rest
  | .other =>
    match rest with
    | '/' :: '/' :: rest => authority? .other scheme rest
    | _ => some ⟨scheme, none, none⟩

def leagueHost : String := "league.example"

/-- The site of the league or a part of it over a secure connection, or a named port of the local
machine. -/
def isAllowed (o : Origin) : Bool :=
  match o.host with
  | some (.name host) =>
    if o.scheme = "https" then
      host == leagueHost ||
        (host.endsWith ("." ++ leagueHost) && leagueHost.length + 1 < host.length)
    else o.scheme == "http" && host == "localhost" && o.port.any (· != 0)
  | _ => false

end Origin

end Matchday.Live
