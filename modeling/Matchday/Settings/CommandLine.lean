import Matchday.Settings.Setting

set_option autoImplicit false

namespace Matchday

open Matchday.Text

namespace CommandLine

def value? (s : Setting) (text : String) : Option SettingValue :=
  match s.kind with
  | .text => some (.text text)
  | .number r => (integer? r text).map .number
  | .switch => none

def set? (layer : SettingLayer) (s : Setting) (v : SettingValue) : Option SettingLayer :=
  if (layer.lookup s).isSome then none else some ((s, v) :: layer)

def isArgument (word : String) : Bool := word == "-" || word.toList.head? != some '-'

def option? (layer : SettingLayer) (s : Setting) (own : Option String) (rest : List String) :
    Option (SettingLayer × List String) :=
  match s.kind, own, rest with
  | .switch, none, rest => (set? layer s (.switch true)).map fun l => (l, rest)
  | .switch, some _, _ => none
  | _, some text, rest => do
    let v ← value? s text
    (set? layer s v).map fun l => (l, rest)
  | _, none, word :: rest =>
    if isArgument word then do
      let v ← value? s word
      (set? layer s v).map fun l => (l, rest)
    else none
  | _, none, [] => none

def afterEquals (cs : List Char) : Option String :=
  match cs.dropWhile (· != '=') with
  | '=' :: rest => some (String.ofList rest)
  | _ => none

def letters? : SettingLayer → List Char → List String → Option (SettingLayer × List String)
  | _, [], _ => none
  | layer, c :: cs, rest => do
    let s ← Setting.all.find? fun s => s.letter == c
    match s.kind, cs with
    | .switch, [] => option? layer s none rest
    | .switch, cs => do
      let (layer, rest) ← option? layer s none rest
      letters? layer cs rest
    | _, [] => option? layer s none rest
    | _, '=' :: cs => option? layer s (some (String.ofList cs)) rest
    | _, cs => option? layer s (some (String.ofList cs)) rest

def word? (layer : SettingLayer) (word : String) (rest : List String) :
    Option (SettingLayer × List String) :=
  match word.toList with
  | ['-', '-'] => if rest.isEmpty then some (layer, []) else none
  | '-' :: '-' :: cs => do
    let name := String.ofList (cs.takeWhile (· != '='))
    let s ← Setting.all.find? fun s => s.option == name
    option? layer s (afterEquals cs) rest
  | '-' :: cs => letters? layer cs rest
  | _ => none

def layerFrom : Nat → SettingLayer → List String → Option SettingLayer
  | _, layer, [] => some layer
  | 0, _, _ => none
  | fuel + 1, layer, word :: rest => do
    let (layer, rest) ← word? layer word rest
    layerFrom fuel layer rest

/-- What a command line sets; given any word at all, it also decides the switches that it does not
name. -/
def layer? (words : List String) : Option SettingLayer := do
  let layer ← layerFrom words.length [] words
  if words.isEmpty ∨ (layer.lookup .skipMigrations).isSome then pure layer
  else pure ((.skipMigrations, .switch false) :: layer)

end CommandLine

end Matchday
