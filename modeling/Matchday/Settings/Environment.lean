import Matchday.Decimal.Binary64
import Matchday.Settings.Setting
import Matchday.Text.Blank

set_option autoImplicit false

/-!
# Settings in the environment

A variable names a setting after a common beginning, in any case, and its text is a value: a truth
value, a number, a text that may be quoted, a list in brackets or a table in braces. A text that is
no such value is taken as it is written.
-/
namespace Matchday.Environment

open Matchday
open Matchday.Text

def number? (text : String) : Option Int :=
  integer? ⟨"", IntRange.i64.low, IntRange.u64.high⟩ text

/-- A fraction in digits: all digits of it, and the power of ten that they count. -/
structure Fraction where
  digits : Nat
  power : Int
  deriving DecidableEq, Repr

def unsigned : List Char → Bool × List Char
  | '+' :: cs => (false, cs)
  | '-' :: cs => (true, cs)
  | cs => (false, cs)

def exponent? : List Char → Option Int
  | [] => some 0
  | e :: cs =>
    if e = 'e' ∨ e = 'E' then
      let (negative, cs) := unsigned cs
      (natural? cs).map fun n => if negative then -(n : Int) else n
    else none

def fraction? (cs : List Char) : Option Fraction :=
  let cs := (unsigned cs).2
  let whole := cs.takeWhile Char.isDigit
  match cs.drop whole.length with
  | '.' :: cs =>
    let part := cs.takeWhile Char.isDigit
    match natural? (whole ++ part), exponent? (cs.drop part.length) with
    | some digits, some e => some ⟨digits, e - part.length⟩
    | _, _ => none
  | _ => none

/-- Whether no double is so great. Beside a power of ten that outweighs all digits the digits need
not be counted. -/
def Fraction.isUnbounded (f : Fraction) : Bool :=
  let length : Int := (Nat.toDigits 10 f.digits).length
  if f.digits = 0 ∨ f.power + length < 309 then false
  else if 309 < f.power + length then true
  else if 0 ≤ f.power then (Binary64.ofQuotient? false (f.digits * Nat.pow 10 f.power.toNat) 1).isNone
  else (Binary64.ofQuotient? false f.digits (Nat.pow 10 (-f.power).toNat)).isNone

def escapedCode? (digits : Nat) (cs : List Char) : Option (Char × List Char) := do
  let ds := cs.take digits
  let n ← ds.foldlM (fun n c => (hexadecimal? c).map fun d => n * 16 + d) 0
  if ds.length = digits ∧ n.isValidChar then some (Char.ofNat n, cs.drop digits) else none
where
  hexadecimal? (c : Char) : Option Nat :=
    let n := c.toNat
    if c.isDigit then some (n - 48)
    else if 97 ≤ n ∧ n ≤ 102 then some (n - 87)
    else if 65 ≤ n ∧ n ≤ 70 then some (n - 55)
    else none

def escaped? : List Char → Option (Char × List Char)
  | 'b' :: cs => some ('\x08', cs)
  | 'f' :: cs => some ('\x0c', cs)
  | 'n' :: cs => some ('\n', cs)
  | 'r' :: cs => some ('\r', cs)
  | 't' :: cs => some ('\t', cs)
  | '"' :: cs => some ('"', cs)
  | '\\' :: cs => some ('\\', cs)
  | 'u' :: cs => escapedCode? 4 cs
  | 'U' :: cs => escapedCode? 8 cs
  | _ => none

/-- A text up to its closing quote, after what has been read of it, newest first. Of the control
characters only the tab may stand in it. -/
def quotedFrom : Nat → List Char → List Char → Option (String × List Char)
  | 0, _, _ => none
  | _, _, [] => none
  | _ + 1, acc, '"' :: cs => some (String.ofList acc.reverse, cs)
  | fuel + 1, acc, '\\' :: cs => do
    let (c, cs) ← escaped? cs
    quotedFrom fuel (c :: acc) cs
  | fuel + 1, acc, c :: cs =>
    if (c.toNat < 32 ∧ c ≠ '\t') ∨ c.toNat = 127 then none else quotedFrom fuel (c :: acc) cs

def quoted? (cs : List Char) : Option (String × List Char) := quotedFrom cs.length [] cs

def isSpace (c : Char) : Bool := c == ' ' || c == '\t' || c == '\n' || c == '\x0c' || c == '\r'

def skipSpace (cs : List Char) : List Char := cs.dropWhile isSpace

def isSeparator (c : Char) : Bool :=
  c == ',' || c == '[' || c == ']' || c.toNat == 123 || c.toNat == 125

def isKeyChar (c : Char) : Bool := c.isAlphanum || c == '_' || c == '-'

def word? (word : String) (cs : List Char) : Option (List Char) :=
  if (cs.take word.length).map Char.toLower = word.toList then some (cs.drop word.length) else none

def bareValue (cs : List Char) : SettingValue :=
  let cs := trimChars cs
  let text := String.ofList cs
  match fraction? cs, number? text with
  | some f, _ => if f.isUnbounded then .unbounded else .alien
  | none, some n => .number n
  | none, none => .text text

def afterKey? (cs : List Char) : Option (List Char) := do
  let cs ← match skipSpace cs with
    | '"' :: cs => (quoted? cs).map Prod.snd
    | cs =>
      let key := cs.takeWhile isKeyChar
      if key.isEmpty then none else some (cs.drop key.length)
  match skipSpace cs with
  | '=' :: cs => some cs
  | _ => none

mutual

def valueFrom : Nat → List Char → Option (SettingValue × List Char)
  | 0, _ => none
  | fuel + 1, cs =>
    let cs := skipSpace cs
    let result : Option (SettingValue × List Char) := match word? "true" cs, word? "false" cs with
      | some rest, _ => some (.switch true, rest)
      | none, some rest => some (.switch false, rest)
      | none, none =>
        match cs with
        | '[' :: rest => (membersFrom fuel false ']' rest).map (SettingValue.alien, ·)
        | '"' :: rest => (quoted? rest).map fun (s, rest) => (.text s, rest)
        | '\'' :: c :: '\'' :: rest => some (.text (String.ofList [c]), rest)
        | '\'' :: _ => none
        | c :: rest =>
          if c.toNat = 123 then (membersFrom fuel true '\x7d' rest).map (SettingValue.alien, ·)
          else
            let bare := (c :: rest).takeWhile fun c => !isSeparator c
            some (bareValue bare, (c :: rest).drop bare.length)
        | [] => some (.text "", [])
    result.map fun (v, rest) => (v, skipSpace rest)

def membersFrom : Nat → Bool → Char → List Char → Option (List Char)
  | 0, _, _, _ => none
  | fuel + 1, keyed, closing, cs =>
    if cs.head? = some closing then some (cs.drop 1)
    else do
      let cs ← if keyed then afterKey? cs else some cs
      let (_, rest) ← valueFrom fuel cs
      match rest with
      | ',' :: rest => membersFrom fuel keyed closing rest
      | c :: rest => if c = closing then some rest else none
      | [] => none

end

def isBracketed (cs : List Char) : Bool :=
  match cs with
  | c :: _ => c == '[' || c.toNat == 123 || c == '"' || c == '\''
  | [] => false

def value (text : String) : SettingValue :=
  let text := trim text
  let cs := text.toList
  if cs.contains ',' ∧ !isBracketed cs then .alien
  else
    match valueFrom (2 * cs.length + 2) cs with
    | some (v, []) => v
    | _ => .text text

def start : String := "league_"

/-- The parts of a variable's name after its beginning, in small letters; a part is ended by a full
stop or by two underscores, and none is empty. -/
def path? (name : String) : Option (List String) := do
  let cs := (trimChars name.toList).map Char.toLower
  let key ← if cs.take start.length = start.toList then some (cs.drop start.length) else none
  let parts := ((String.ofList key).splitOn "__").flatMap fun part => part.splitOn "."
  if parts.any String.isEmpty then none else some parts

/-- What a variable sets; a part of what should be a single value makes a table of it. -/
def setting? (name text : String) : Option (Setting × SettingValue) := do
  match ← path? name with
  | [] => none
  | key :: parts => do
    let s ← Setting.all.find? fun s => s.key == key
    some (s, if parts.isEmpty then value text else .alien)

/-- What variables set, the last first, as it counts where several name one setting. -/
def layer (entries : List (String × String)) : SettingLayer :=
  (entries.filterMap fun (name, text) => setting? name text).reverse

end Matchday.Environment
