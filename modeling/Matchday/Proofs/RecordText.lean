import Matchday.Json.Codec
import Matchday.Proofs.JsonText

set_option autoImplicit false

namespace Matchday.Json

open Matchday.Text
open Matchday.Json.Read

namespace Codec

variable {α : Type}

def ReadsBack (c : Codec α) (a : α) : Prop := Restores c.read (c.encode a).chars a

def Shows (c : Codec α) (a : α) : Prop := (∃ levels, (c.encode a).Plain levels) ∧ c.encode a ≠ .null

theorem ofText_text {c : Codec α} {a : α} (reads : c.ReadsBack a) : c.ofText (c.text a) = .ok a := by
  have hread := reads [] .nothing
  rw [List.append_nil] at hread
  rw [ofText, ofSymbols, whole, symbols, text, render, String.toList_ofList, hread]
  rfl

theorem readsBack_integer {r : IntRange} {n : Int} (word : IsWord n) (fits : r.contains n = true) :
    (integer r).ReadsBack n := by
  intro rest settled
  have hfound : found (((integer r).encode n).chars.map some ++ rest) = .ok (.int n, rest) :=
    found_writeInt word settled
  simp only [integer, bind, Except.bind] at hfound ⊢
  rw [hfound]
  simp only [fits, if_true]
  rfl

theorem shows_integer {r : IntRange} {n : Int} (word : IsWord n) : (integer r).Shows n :=
  ⟨⟨0, word⟩, nofun⟩

theorem readsBack_string (s : String) : string.ReadsBack s := by
  intro rest _
  have hfound : found ((string.encode s).chars.map some ++ rest) = .ok (.str s, rest) :=
    found_quote s rest
  simp only [string, bind, Except.bind] at hfound ⊢
  rw [hfound]
  rfl

theorem shows_string (s : String) : string.Shows s := ⟨⟨0, trivial⟩, nofun⟩

theorem readsBack_bool (b : Bool) : bool.ReadsBack b := by
  intro rest _
  cases b <;> rfl

theorem shows_bool (b : Bool) : bool.Shows b := ⟨⟨0, trivial⟩, nofun⟩

theorem readsBack_json {j : Json} (plain : j.Plain (nestingLimit - 1)) : json.ReadsBack j :=
  value_restores plain

theorem readsBack_option {c : Codec α} {a : Option α} (reads : ∀ v ∈ a, c.ReadsBack v)
    (shows : ∀ v ∈ a, c.Shows v) : c.option.ReadsBack a := by
  intro rest settled
  cases a with
  | none => rfl
  | some v =>
    obtain ⟨⟨levels, hplain⟩, hnull⟩ := shows v rfl
    obtain ⟨x, xs, hxs, hopens, hn⟩ := hplain.opens
    have hread := reads v rfl rest settled
    simp only [option, hxs, List.map_cons, List.cons_append, blanks_of_opens hopens] at hread ⊢
    rw [hread]
    split
    case h_1 hcons =>
      cases hcons
      exact absurd (hn rfl) hnull
    case h_2 => rfl

theorem readsBack_variant {all : List α} {name : α → String} {a : α} (known : a ∈ all)
    (unique : ∀ b ∈ all, name b = name a → b = a) : (variant all name).ReadsBack a := by
  intro rest _
  have hnamed : named all name (name a) = .ok a := by
    obtain ⟨b, hb⟩ : ∃ b, all.find? (fun b => name b == name a) = some b :=
      Option.isSome_iff_exists.mp (List.find?_isSome.mpr ⟨a, known, beq_self_eq_true _⟩)
    have hsame : (name b == name a) = true := List.find?_some (p := fun b => name b == name a) hb
    rw [named, hb, unique b (List.mem_of_find?_eq_some hb) (beq_iff_eq.mp hsame)]
  have htext : ((variant all name).encode a).chars.map some ++ rest =
      some '"' :: (((name a).toList.flatMap escape).map some ++ some '"' :: rest) := map_some_quote _ _
  have hstring := string_escaped (name a) rest
  rw [htext]
  simp only [variant, blanks_of_opens (c := '"') rfl, bind, Except.bind]
  rw [hstring]
  simp only [hnamed]
  rfl

end Codec

namespace Fields

variable {α ρ σ ρ' σ' : Type}

/-- What is written of a row stands for it: a member gives its value back, and one that is left out is
missed for it. -/
def ReadBack : {ρ σ : Type} → Fields ρ σ → ρ → Prop
  | _, _, nil, _ => True
  | _, _, cons f rest, (a, row) =>
    (if f.omits a then f.ifMissing = some a else f.codec.ReadsBack a) ∧ rest.ReadBack row

def filled : {ρ σ : Type} → Fields ρ σ → ρ → σ
  | _, _, nil, _ => ()
  | _, _, cons f rest, (a, row) => (if f.omits a then none else some a, rest.filled row)

theorem collect_filled {fs : Fields ρ σ} {row : ρ} (back : fs.ReadBack row) :
    fs.collect (fs.filled row) = .ok row := by
  induction fs with
  | nil => rfl
  | cons f rest ih =>
    obtain ⟨a, row⟩ := row
    obtain ⟨ha, hrow⟩ := back
    have hrest := ih hrow
    cases homits : f.omits a with
    | false => simp [collect, filled, homits, hrest, Except.map]
    | true =>
      rw [if_pos homits] at ha
      simp [collect, filled, homits, ha, hrest, Except.map]

theorem place_self {f : Field α} {rest : Fields ρ σ} {slots : σ} {a : α} {cs cs' : List Symbol}
    (read : keyed f.codec.read cs = .ok (a, cs')) :
    (cons f rest).place f.name (none, slots) cs = some (.ok ((some a, slots), cs')) := by
  simp only [place, if_true, read]
  rfl

theorem place_other {f : Field α} {rest : Fields ρ σ} {key : String} (other : f.name ≠ key)
    (slot : Option α) (slots : σ) (cs : List Symbol) :
    (cons f rest).place key (slot, slots) cs =
      (rest.place key slots cs).map fun r => r.map fun (slots, cs) => ((slot, slots), cs) := by
  simp only [place, if_neg other]

/-- Fields are the last ones of a record: the record puts their members into the places that `embed` has
for them. -/
def Within (whole : Fields ρ' σ') (fs : Fields ρ σ) (embed : σ → σ') : Prop :=
  ∀ key ∈ fs.names, ∀ slots cs, whole.place key (embed slots) cs =
    (fs.place key slots cs).map fun r => r.map fun (slots, cs) => (embed slots, cs)

theorem within_self (fs : Fields ρ σ) : Within fs fs id := by
  intro key _ slots cs
  rw [id]
  rcases fs.place key slots cs with _ | (e | ⟨slots, cs⟩) <;> rfl

theorem Within.rest {whole : Fields ρ' σ'} {f : Field α} {rest : Fields ρ σ} {embed : Option α × σ → σ'}
    (within : Within whole (cons f rest) embed) (fresh : f.name ∉ rest.names) (slot : Option α) :
    Within whole rest fun slots => embed (slot, slots) := by
  intro key hkey slots cs
  have hother : f.name ≠ key := fun h => fresh (h ▸ hkey)
  rw [within key (List.mem_cons_of_mem f.name hkey), place_other hother]
  rcases rest.place key slots cs with _ | (e | ⟨slots, cs⟩) <;> rfl

theorem Within.readMembers {whole : Fields ρ' σ'} {fs : Fields ρ σ} {embed : σ → σ'}
    (within : Within whole fs embed) (distinct : fs.names.Nodup) {row : ρ} (back : fs.ReadBack row)
    {fuel : Nat} (enough : (fs.members row).length < fuel) (first : Bool) (rest : List Symbol) :
    whole.readMembers fuel first (embed fs.unread)
        ((separated first ((fs.members row).map charsOfMember)).map some ++ some '}' :: rest) =
      .ok (embed (fs.filled row), some '}' :: rest) := by
  -- Over the fields still to come: `embed` holds the places of those before them, which stay as they are.
  induction fs generalizing fuel first with
  | nil =>
    obtain ⟨fuel, rfl⟩ := Nat.exists_eq_succ_of_ne_zero (Nat.ne_of_gt enough)
    rfl
  | cons f fs ih =>
    obtain ⟨a, row⟩ := row
    obtain ⟨ha, hrow⟩ := back
    obtain ⟨hfresh, hdistinct⟩ := List.nodup_cons.mp distinct
    cases homits : f.omits a with
    | true =>
      have hmembers : (cons f fs).members (a, row) = fs.members row := by rw [members, if_pos homits]
      have hfilled : (cons f fs).filled (a, row) = (none, fs.filled row) := by rw [filled, if_pos homits]
      rw [hmembers] at enough ⊢
      rw [hfilled]
      exact ih (within.rest hfresh none) hdistinct hrow enough first
    | false =>
      have hmembers : (cons f fs).members (a, row) = (f.name, f.codec.encode a) :: fs.members row := by
        rw [members, homits, if_neg nofun]
      have hfilled : (cons f fs).filled (a, row) = (some a, fs.filled row) := by
        rw [filled, homits, if_neg nofun]
      rw [homits, if_neg nofun] at ha
      rw [hmembers] at enough ⊢
      rw [hfilled]
      obtain ⟨fuel, rfl⟩ := Nat.exists_eq_succ_of_ne_zero (Nat.ne_of_gt (Nat.zero_lt_of_lt enough))
      have hread := keyed_restores ha
        (settled_separated ((fs.members row).map charsOfMember) (.brace rest))
      have hplace := within f.name List.mem_cons_self (none, fs.unread)
      have hrest := ih (within.rest hfresh (some a)) hdistinct hrow (Nat.lt_of_succ_lt_succ enough) false
      rw [Fields.readMembers, List.map_cons, nextKey_separated]
      simp only [member, unread, hplace, place_self hread, Option.map_some, Except.map]
      exact hrest

theorem readMembers_members {fs : Fields ρ σ} (distinct : fs.names.Nodup) {row : ρ} (back : fs.ReadBack row)
    {fuel : Nat} (enough : (fs.members row).length < fuel) (rest : List Symbol) :
    fs.readMembers fuel true fs.unread
        ((separated true ((fs.members row).map charsOfMember)).map some ++ some '}' :: rest) =
      .ok (fs.filled row, some '}' :: rest) :=
  (within_self fs).readMembers distinct back enough true rest

variable {name : String} {c : Codec α} {rest : Fields ρ σ} {row : ρ}

namespace ReadBack

theorem required {a : α} (reads : c.ReadsBack a) (back : rest.ReadBack row) :
    (required name c rest).ReadBack (a, row) := ⟨reads, back⟩

theorem nullable {a : Option α} (reads : c.option.ReadsBack a) (back : rest.ReadBack row) :
    (nullable name c rest).ReadBack (a, row) := ⟨reads, back⟩

theorem optional {a : Option α} (reads : c.option.ReadsBack a) (back : rest.ReadBack row) :
    (optional name c rest).ReadBack (a, row) := by
  cases a with
  | none => exact ⟨rfl, back⟩
  | some v => exact ⟨reads, back⟩

theorem trailing {a : Option α} (reads : c.option.ReadsBack a) (back : rest.ReadBack row) :
    (trailing name c rest).ReadBack (a, row) := by
  cases a with
  | none => exact ⟨rfl, back⟩
  | some v => exact ⟨reads, back⟩

end ReadBack

end Fields

theorem Record.readsBack {α : Type} {r : Record α} {a : α} (distinct : r.fields.names.Nodup)
    (rebuilds : r.ofRow (r.toRow a) = a) (back : r.fields.ReadBack (r.toRow a)) :
    r.codec.ReadsBack a := by
  intro rest settled
  have hopening (cs : List Symbol) : found (some '{' :: cs) = .ok (.map, cs) := rfl
  have hclosing : mark '}' (some '}' :: rest) = .ok rest := rfl
  have hfilled : ∀ part ∈ (r.fields.members (r.toRow a)).map charsOfMember, part ≠ [] := by
    intro part hpart
    obtain ⟨m, -, rfl⟩ := List.mem_map.mp hpart
    exact List.cons_ne_nil _ _
  have henough := parts_lt_fuel hfilled (some '}' :: rest)
  rw [List.length_map] at henough
  have hmembers := Fields.readMembers_members distinct back henough rest
  have htext : (r.codec.encode a).chars.map some ++ rest = some '{' ::
      ((separated true ((r.fields.members (r.toRow a)).map charsOfMember)).map some ++
        some '}' :: rest) := by
    simp only [Record.codec, Record.encode, chars, charsOfMembers_eq, List.map_append, List.append_assoc,
      List.map_cons, List.cons_append, List.map_nil, List.nil_append]
  rw [htext]
  simp only [Record.codec, Record.read, hopening, bind, Except.bind]
  rw [hmembers]
  simp only [Fields.collect_filled back, hclosing, rebuilds]
  rfl

end Matchday.Json
