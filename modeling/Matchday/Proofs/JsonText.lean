import Matchday.Json.Reader
import Mathlib.Data.List.Basic
import Mathlib.Data.String.Basic
import Mathlib.Tactic.SplitIfs

set_option autoImplicit false

namespace Matchday.Json

namespace Read

open Matchday.Text

/-- What may stand after a value: nothing, or a mark that no number goes on with. -/
inductive Settled : List Symbol → Prop
  | nothing : Settled []
  | comma (rest : List Symbol) : Settled (some ',' :: rest)
  | bracket (rest : List Symbol) : Settled (some ']' :: rest)
  | brace (rest : List Symbol) : Settled (some '}' :: rest)

def Restores {α : Type} (read : Reader α) (cs : List Char) (a : α) : Prop :=
  ∀ rest, Settled rest → read (cs.map some ++ rest) = .ok (a, rest)

theorem hexValue?_hexDigit : ∀ n < 256, hexValue? (hexDigit n) = some (n % 16) := by decide +kernel

theorem escape_cases (c : Char) :
    (32 ≤ c.toNat ∧ c ≠ '"' ∧ c ≠ '\\' ∧ escape c = [c]) ∨
      (∃ e, e ≠ 'u' ∧ unescape? e = some c ∧ escape c = ['\\', e]) ∨
      (c.toNat < 32 ∧ escape c = ['\\', 'u', '0', '0', hexDigit (c.toNat / 16), hexDigit c.toNat]) := by
  unfold escape
  split_ifs with hquote hbackslash hnewline hreturn htab hback hfeed hcontrol
  iterate 7 exact .inr (.inl ⟨_, by decide, by subst c; rfl, rfl⟩)
  · exact .inr (.inr ⟨hcontrol, rfl⟩)
  · exact .inl ⟨by omega, hquote, hbackslash, rfl⟩

theorem codePoint?_control {n : Nat} (control : n < 32) (rest : List Symbol) :
    codePoint? (some '0' :: some '0' :: some (hexDigit (n / 16)) :: some (hexDigit n) :: rest) =
      some (Char.ofNat n, 4) := by
  have hread : hex4? (some '0' :: some '0' :: some (hexDigit (n / 16)) :: some (hexDigit n) :: rest) =
      some n := by
    have hzero : hexValue? '0' = some 0 := rfl
    simp only [hex4?, hzero, hexValue?_hexDigit (n / 16) (by omega), hexValue?_hexDigit n (by omega),
      Option.bind_eq_bind, Option.bind_some, Option.pure_def, Option.some.injEq]
    omega
  simp only [codePoint?, hread, Option.bind_eq_bind, Option.bind_some]
  rw [if_neg (by omega), if_neg (by omega)]

theorem stringFrom_escape (acc : List Char) (c : Char) (rest : List Symbol) :
    stringFrom acc ((escape c).map some ++ rest) = stringFrom (c :: acc) rest := by
  rcases escape_cases c with ⟨hshown, hquote, hbackslash, hc⟩ | ⟨e, hu, he, hc⟩ | ⟨hcontrol, hc⟩
  · rw [hc]
    simp [stringFrom, hshown, hbackslash]
  · rw [hc]
    simp [stringFrom, he]
  · rw [hc]
    simp only [List.map_cons, List.map_nil, List.cons_append, List.nil_append]
    rw [stringFrom, codePoint?_control hcontrol]
    simp only [Char.ofNat_toNat, List.drop_succ_cons, List.drop_zero]

theorem stringFrom_escaped (acc cs : List Char) (rest : List Symbol) :
    stringFrom acc ((cs.flatMap escape).map some ++ some '"' :: rest) =
      .ok (String.ofList (acc.reverse ++ cs), rest) := by
  induction cs generalizing acc with
  | nil => simp [stringFrom]
  | cons c cs ih =>
    rw [List.flatMap_cons, List.map_append, List.append_assoc, stringFrom_escape, ih, List.reverse_cons,
      List.append_assoc, List.singleton_append]

theorem string_escaped (s : String) (rest : List Symbol) :
    string ((s.toList.flatMap escape).map some ++ some '"' :: rest) = .ok (s, rest) := by
  rw [string, stringFrom_escaped, List.reverse_nil, List.nil_append, String.ofList_toList]

theorem map_some_quote (s : String) (rest : List Symbol) :
    (quote s).map some ++ rest =
      some '"' :: ((s.toList.flatMap escape).map some ++ some '"' :: rest) := by
  simp only [quote, List.map_cons, List.map_append, List.map_nil, List.cons_append, List.append_assoc,
    List.nil_append]

theorem found_quote (s : String) (rest : List Symbol) :
    found ((quote s).map some ++ rest) = .ok (.str s, rest) := by
  rw [map_some_quote]
  exact congrArg (Except.map _) (string_escaped s rest)

/-- The whole numbers of 64 bits, with and without a sign. -/
def IsWord (n : Int) : Prop := -9223372036854775808 ≤ n ∧ n ≤ 18446744073709551615

instance (n : Int) : Decidable (IsWord n) := inferInstanceAs (Decidable (_ ∧ _))

theorem ofDigitChars_ten_cons (c : Char) (cs : List Char) (n : Nat) :
    Nat.ofDigitChars 10 (c :: cs) n = Nat.ofDigitChars 10 cs (n * 10 + (c.toNat - 48)) := by
  rw [Nat.ofDigitChars_cons, Nat.mul_comm]
  rfl

theorem le_ofDigitChars (cs : List Char) (n : Nat) : n ≤ Nat.ofDigitChars 10 cs n := by
  induction cs generalizing n with
  | nil => exact Nat.le_refl n
  | cons c cs ih =>
    rw [ofDigitChars_ten_cons]
    exact Nat.le_trans (by omega) (ih _)

theorem startsWithDigit_settled {rest : List Symbol} (settled : Settled rest) :
    startsWithDigit rest = false := by
  cases settled <;> rfl

theorem significand_digits {cs : List Char} (digits : ∀ c ∈ cs, c.isDigit = true) {rest : List Symbol}
    (ended : startsWithDigit rest = false) {acc : Nat}
    (fits : Nat.ofDigitChars 10 cs acc ≤ greatestSignificand) (taken : Nat) :
    significand acc taken (cs.map some ++ rest) =
      (Nat.ofDigitChars 10 cs acc, taken + cs.length, rest) := by
  induction cs generalizing acc taken with
  | nil =>
    rcases rest with _ | ⟨_ | c, rest⟩
    · rfl
    · rfl
    · simp_all [significand, startsWithDigit]
  | cons c cs ih =>
    have hc : c.isDigit = true := digits c List.mem_cons_self
    rw [ofDigitChars_ten_cons] at fits ⊢
    have hstep : acc * 10 + (c.toNat - 48) ≤ greatestSignificand :=
      Nat.le_trans (le_ofDigitChars cs _) fits
    have hrest := ih (fun d hd => digits d (List.mem_cons_of_mem c hd)) fits (taken + 1)
    rw [List.map_cons, List.cons_append, significand]
    simp only [hc, hstep, and_self, if_true]
    rw [hrest, List.length_cons, Nat.add_assoc, Nat.add_comm 1]

theorem toDigits_eq_cons (n : Nat) :
    ∃ c cs, Nat.toDigits 10 n = c :: cs ∧ c.isDigit = true := by
  cases hds : Nat.toDigits 10 n with
  | nil => exact absurd hds Nat.toDigits_ne_nil
  | cons c cs =>
    exact ⟨c, cs, rfl, Nat.isDigit_of_mem_toDigits (by decide) (by decide) (hds ▸ List.mem_cons_self)⟩

theorem head?_toDigits {n : Nat} (positive : 0 < n) : (Nat.toDigits 10 n).head? ≠ some '0' := by
  induction n using Nat.strongRecOn with
  | ind n ih =>
    rw [Nat.toDigits_eq_if (by decide)]
    split_ifs with hn
    · simpa [Nat.digitChar_eq_zero] using Nat.ne_of_gt positive
    · rw [List.head?_append_of_ne_nil _ Nat.toDigits_ne_nil]
      exact ih (n / 10) (by omega) (by omega)

theorem passDigits_settled {rest : List Symbol} (settled : Settled rest) :
    passDigits 0 rest = (0, rest) := by
  cases settled <;> rfl

theorem afterDigits_settled (negative : Bool) (n : Nat) {rest : List Symbol} (settled : Settled rest) :
    afterDigits negative n 0 rest = wholeNumber negative n rest := by
  cases settled <;> rfl

theorem number_toDigits (negative : Bool) {n : Nat} (fits : n ≤ greatestSignificand) {rest : List Symbol}
    (settled : Settled rest) :
    number negative ((Nat.toDigits 10 n).map some ++ rest) = wholeNumber negative n rest := by
  have hended := startsWithDigit_settled settled
  rcases Nat.eq_zero_or_pos n with rfl | hpos
  · have hzero : number negative (some '0' :: rest) =
        if startsWithDigit rest then .error .malformed else afterDigits negative 0 0 rest := rfl
    rw [Nat.toDigits_zero, List.map_singleton, List.singleton_append, hzero, hended, if_neg nofun,
      afterDigits_settled negative 0 settled]
  · have hdigits (c : Char) (hc : c ∈ Nat.toDigits 10 n) : c.isDigit = true :=
      Nat.isDigit_of_mem_toDigits (by decide) (by decide) hc
    have hvalue : Nat.ofDigitChars 10 (Nat.toDigits 10 n) 0 = n :=
      Nat.ofDigitChars_toDigits (by decide) (by decide)
    have hsignificand := significand_digits hdigits hended (hvalue.trans_le fits) 0
    rw [hvalue] at hsignificand
    obtain ⟨c, cs, hcs, hc⟩ := toDigits_eq_cons n
    have hhead := head?_toDigits hpos
    rw [hcs] at hhead hsignificand ⊢
    rw [List.map_cons, List.cons_append] at hsignificand ⊢
    simp only [number, startsWithDigit, hc, if_true]
    split
    · simp_all
    · rw [hsignificand]
      simp only [passDigits_settled settled, afterDigits_settled negative n settled]

theorem writeInt_natCast (n : Nat) : writeInt n = Nat.toDigits 10 n := by
  change (Nat.repr n).toList = _
  rw [Nat.repr, String.toList_ofList]

theorem writeInt_negSucc (n : Nat) : writeInt (.negSucc n) = '-' :: Nat.toDigits 10 (n + 1) := by
  have hsign : "-".toList = ['-'] := rfl
  change ("-" ++ Nat.repr (n + 1)).toList = _
  rw [Nat.repr, String.toList_append, hsign, String.toList_ofList, List.singleton_append]

def opens (c : Char) : Bool := c.isDigit || ['-', '"', '[', '{', 'n', 't', 'f'].contains c

theorem opens_of_isDigit {c : Char} (h : c.isDigit = true) : opens c = true := by
  rw [opens, h, Bool.true_or]

theorem blanks_of_opens {c : Char} (h : opens c = true) (rest : List Symbol) :
    blanks (some c :: rest) = some c :: rest := by
  have hblank : isBlank c = false := by
    cases hblank : isBlank c with
    | false => rfl
    | true =>
      simp only [isBlank, Bool.or_eq_true, beq_iff_eq] at hblank
      rcases hblank with ((rfl | rfl) | rfl) | rfl <;> exact absurd h (by decide)
  rw [blanks, hblank, if_neg nofun]

theorem found_of_isDigit {c : Char} (h : c.isDigit = true) (rest : List Symbol) :
    found (some c :: rest) = number false (some c :: rest) := by
  rw [found, blanks_of_opens (opens_of_isDigit h)]
  split
  case h_8 => rfl
  all_goals
    rename_i hcons
    cases hcons
    exact absurd h (by decide)

theorem found_writeInt {n : Int} (word : IsWord n) {rest : List Symbol} (settled : Settled rest) :
    found ((writeInt n).map some ++ rest) = .ok (.int n, rest) := by
  obtain ⟨hlow, hhigh⟩ := word
  cases n with
  | ofNat n =>
    rw [Int.ofNat_eq_natCast] at hhigh ⊢
    have hfits : n ≤ greatestSignificand := by
      unfold greatestSignificand
      omega
    have hnumber := number_toDigits false hfits settled
    obtain ⟨c, cs, hcs, hc⟩ := toDigits_eq_cons n
    rw [hcs] at hnumber
    rw [writeInt_natCast, hcs, List.map_cons, List.cons_append, found_of_isDigit hc]
    exact hnumber
  | negSucc n =>
    have hfits : n + 1 ≤ greatestSignificand := by
      unfold greatestSignificand
      omega
    have hnumber := number_toDigits true hfits settled
    rw [writeInt_negSucc, List.map_cons, List.cons_append]
    change number true _ = _
    rw [hnumber, wholeNumber, if_neg nofun, if_neg (by omega), Int.negSucc_eq, Int.natCast_add]
    rfl

end Read

/-- A value of at most so many levels without doubles, whose whole numbers have 64 bits and whose
objects have their keys in order, each once. -/
def Plain : Nat → Json → Prop
  | _, null => True
  | _, bool _ => True
  | _, int n => Read.IsWord n
  | _, float _ => False
  | _, str _ => True
  | 0, arr _ => False
  | levels + 1, arr items => ∀ x ∈ items, Plain levels x
  | 0, obj _ => False
  | levels + 1, obj members =>
    (members.map Prod.fst).Pairwise (· < ·) ∧ ∀ m ∈ members, Plain levels m.2

theorem not_plain_float {levels : Nat} {x : Binary64} : ¬(float x).Plain levels := by
  cases levels <;> exact id

theorem Plain.opens {levels : Nat} {j : Json} (plain : j.Plain levels) :
    ∃ c cs, j.chars = c :: cs ∧ Read.opens c = true ∧ (c = 'n' → j = .null) := by
  cases j with
  | null => exact ⟨'n', _, rfl, rfl, fun _ => rfl⟩
  | bool b => cases b <;> exact ⟨_, _, rfl, rfl, nofun⟩
  | int n =>
    cases n with
    | ofNat n =>
      obtain ⟨c, cs, hcs, hc⟩ := Read.toDigits_eq_cons n
      refine ⟨c, cs, (Read.writeInt_natCast n).trans hcs, Read.opens_of_isDigit hc, ?_⟩
      rintro rfl
      exact absurd hc (by decide)
    | negSucc n => exact ⟨'-', _, by rw [chars, Read.writeInt_negSucc], rfl, nofun⟩
  | float x => exact (not_plain_float plain).elim
  | str s => exact ⟨'"', _, rfl, rfl, nofun⟩
  | arr items => exact ⟨'[', _, by rw [chars, List.cons_append], rfl, nofun⟩
  | obj members => exact ⟨'{', _, by rw [chars, List.cons_append], rfl, nofun⟩

def separated : Bool → List (List Char) → List Char
  | _, [] => []
  | true, part :: parts => part ++ separated false parts
  | false, part :: parts => ',' :: (part ++ separated false parts)

def charsOfMember (m : String × Json) : List Char := quote m.1 ++ ':' :: m.2.chars

theorem charsOfItems_eq (items : List Json) : charsOfItems items = separated true (items.map chars) := by
  induction items with
  | nil => rfl
  | cons x items ih =>
    cases items with
    | nil => exact (List.append_nil _).symm
    | cons y items =>
      rw [charsOfItems, ih]
      rfl

theorem charsOfMembers_eq (members : List (String × Json)) :
    charsOfMembers members = separated true (members.map charsOfMember) := by
  induction members with
  | nil => rfl
  | cons m members ih =>
    obtain ⟨k, x⟩ := m
    cases members with
    | nil => exact (List.append_nil _).symm
    | cons n members =>
      rw [charsOfMembers, ih]
      rfl

theorem length_le_separated (first : Bool) {parts : List (List Char)} (filled : ∀ part ∈ parts, part ≠ []) :
    parts.length ≤ (separated first parts).length := by
  induction parts generalizing first with
  | nil => exact Nat.zero_le _
  | cons part parts ih =>
    have hpart : 0 < part.length := List.length_pos_of_ne_nil (filled part List.mem_cons_self)
    have hrest := ih false fun p hp => filled p (List.mem_cons_of_mem part hp)
    cases first <;> simp only [separated, List.length_cons, List.length_append] <;> omega

namespace Read

open Matchday.Text

theorem settled_separated (parts : List (List Char)) {rest : List Symbol} (settled : Settled rest) :
    Settled ((separated false parts).map some ++ rest) := by
  cases parts with
  | nil => exact settled
  | cons part parts => exact .comma _

theorem nextItem_front {c : Char} (h : opens c = true) (cs : List Symbol) :
    nextItem true (some c :: cs) = .ok (some (some c :: cs)) := by
  rw [nextItem, blanks_of_opens h]
  split
  case h_1 hcons =>
    cases hcons
    exact absurd h (by decide)
  case h_2 hcons =>
    cases hcons
    exact absurd h (by decide)
  case h_3 => rfl

theorem nextItem_comma {c : Char} (h : opens c = true) (cs : List Symbol) :
    nextItem false (some ',' :: some c :: cs) = .ok (some (some c :: cs)) := by
  have hcomma : blanks (some ',' :: some c :: cs) = some ',' :: some c :: cs := rfl
  simp only [nextItem, hcomma, blanks_of_opens h, if_neg Bool.false_ne_true]
  split
  case h_1 hcons =>
    cases hcons
    exact absurd h (by decide)
  case h_2 => rfl

theorem nextItem_separated (first : Bool) {levels : Nat} {x : Json} (plain : x.Plain levels)
    (parts : List (List Char)) (rest : List Symbol) :
    nextItem first ((separated first (x.chars :: parts)).map some ++ rest) =
      .ok (some (x.chars.map some ++ ((separated false parts).map some ++ rest))) := by
  obtain ⟨c, cs, hcs, hopens, -⟩ := plain.opens
  rw [hcs]
  cases first with
  | true =>
    simp only [separated, List.map_cons, List.map_append, List.cons_append, List.append_assoc]
    exact nextItem_front hopens _
  | false =>
    simp only [separated, List.map_cons, List.map_append, List.cons_append, List.append_assoc]
    exact nextItem_comma hopens _

theorem items_separated {one : Reader Json} {levels : Nat} {items : List Json}
    (plain : ∀ x ∈ items, x.Plain levels) (restores : ∀ x ∈ items, Restores one x.chars x)
    {fuel : Nat} (enough : items.length < fuel) (first : Bool) (acc : List Json) (rest : List Symbol) :
    Read.items one fuel first acc ((separated first (items.map chars)).map some ++ some ']' :: rest) =
      .ok (acc.reverse ++ items, rest) := by
  induction items generalizing fuel first acc with
  | nil =>
    obtain ⟨fuel, rfl⟩ := Nat.exists_eq_succ_of_ne_zero (Nat.ne_of_gt enough)
    rw [List.append_nil]
    rfl
  | cons x items ih =>
    obtain ⟨fuel, rfl⟩ := Nat.exists_eq_succ_of_ne_zero (Nat.ne_of_gt (Nat.zero_lt_of_lt enough))
    have hone := restores x List.mem_cons_self _ (settled_separated (items.map chars) (.bracket rest))
    have hrest := ih (fun y hy => plain y (List.mem_cons_of_mem x hy))
      (fun y hy => restores y (List.mem_cons_of_mem x hy)) (Nat.lt_of_succ_lt_succ enough) false (x :: acc)
    rw [Read.items, List.map_cons, nextItem_separated first (plain x List.mem_cons_self)]
    simp only [hone, hrest, List.reverse_cons, List.append_assoc, List.singleton_append]

theorem nextKey_separated (first : Bool) (m : String × Json) (parts : List (List Char))
    (rest : List Symbol) :
    nextKey first ((separated first (charsOfMember m :: parts)).map some ++ rest) =
      .ok (some (m.1, some ':' :: (m.2.chars.map some ++ ((separated false parts).map some ++ rest)))) := by
  have htext (cs : List Symbol) : (charsOfMember m).map some ++ cs =
      some '"' :: ((m.1.toList.flatMap escape).map some ++
        some '"' :: some ':' :: (m.2.chars.map some ++ cs)) := by
    rw [charsOfMember, List.map_append, List.append_assoc, map_some_quote, List.map_cons,
      List.cons_append]
  cases first with
  | true =>
    rw [separated, List.map_append, List.append_assoc, htext]
    exact congrArg (Except.map _) (string_escaped m.1 _)
  | false =>
    rw [separated, List.map_cons, List.cons_append, List.map_append, List.append_assoc, htext]
    exact congrArg (Except.map _) (string_escaped m.1 _)

theorem keyed_restores {α : Type} {one : Reader α} {cs : List Char} {a : α} (restores : Restores one cs a)
    {rest : List Symbol} (settled : Settled rest) :
    keyed one (some ':' :: (cs.map some ++ rest)) = .ok (a, rest) := restores rest settled

theorem members_separated {one : Reader Json} {members : List (String × Json)}
    (restores : ∀ m ∈ members, Restores one m.2.chars m.2) {fuel : Nat} (enough : members.length < fuel)
    (first : Bool) (acc : List (String × Json)) (rest : List Symbol) :
    Read.members one fuel first acc
        ((separated first (members.map charsOfMember)).map some ++ some '}' :: rest) =
      .ok (acc.reverse ++ members, rest) := by
  induction members generalizing fuel first acc with
  | nil =>
    obtain ⟨fuel, rfl⟩ := Nat.exists_eq_succ_of_ne_zero (Nat.ne_of_gt enough)
    rw [List.append_nil]
    rfl
  | cons m members ih =>
    obtain ⟨fuel, rfl⟩ := Nat.exists_eq_succ_of_ne_zero (Nat.ne_of_gt (Nat.zero_lt_of_lt enough))
    have hone := keyed_restores (restores m List.mem_cons_self)
      (settled_separated (members.map charsOfMember) (.brace rest))
    have hrest := ih (fun n hn => restores n (List.mem_cons_of_mem m hn))
      (Nat.lt_of_succ_lt_succ enough) false (m :: acc)
    rw [Read.members, List.map_cons, nextKey_separated]
    simp only [hone, hrest, List.reverse_cons, List.append_assoc, List.singleton_append]

end Read

theorem insertMember_last {k : String} (v : Json) {members : List (String × Json)}
    (after : ∀ m ∈ members, m.1 < k) : insertMember k v members = members ++ [(k, v)] := by
  induction members with
  | nil => rfl
  | cons m members ih =>
    have hm : m.1 < k := after m List.mem_cons_self
    rw [insertMember, if_neg (ne_of_gt hm), if_neg (lt_asymm hm),
      ih fun n hn => after n (List.mem_cons_of_mem m hn), List.cons_append]

theorem sortedObj_of_ordered {members : List (String × Json)}
    (ordered : (members.map Prod.fst).Pairwise (· < ·)) : sortedObj members = .obj members := by
  have hsorted : sortedObj members =
      .obj (members.foldl (fun acc m => insertMember m.1 m.2 acc) []) := rfl
  have hfold (acc rest : List (String × Json)) (h : ((acc ++ rest).map Prod.fst).Pairwise (· < ·)) :
      rest.foldl (fun acc m => insertMember m.1 m.2 acc) acc = acc ++ rest := by
    induction rest generalizing acc with
    | nil => exact (List.append_nil acc).symm
    | cons m rest ih =>
      have hlast : ∀ n ∈ acc, n.1 < m.1 := by
        intro n hn
        rw [List.map_append, List.pairwise_append] at h
        exact h.2.2 n.1 (List.mem_map_of_mem hn) m.1 (List.mem_map_of_mem List.mem_cons_self)
      have hrest := ih (acc ++ [m]) (by rwa [List.append_assoc, List.singleton_append])
      rw [List.foldl_cons, insertMember_last m.2 hlast, hrest, List.append_assoc, List.singleton_append]
  rw [hsorted, hfold [] members ordered, List.nil_append]

namespace Read

open Matchday.Text

theorem parts_lt_fuel {parts : List (List Char)} (filled : ∀ part ∈ parts, part ≠ []) (rest : List Symbol) :
    parts.length < ((separated true parts).map some ++ rest).length + 1 := by
  have hlength := length_le_separated true filled
  rw [List.length_append, List.length_map]
  omega

theorem value_restores {levels : Nat} {j : Json} (plain : j.Plain levels) :
    Restores (value levels) j.chars j := by
  intro rest settled
  cases j with
  | null =>
    rw [value]
    rfl
  | bool b =>
    rw [value]
    cases b <;> rfl
  | int n =>
    have hword : IsWord n := by cases levels <;> exact plain
    rw [value, chars, found_writeInt hword settled]
  | float x => exact (not_plain_float plain).elim
  | str s => rw [value, chars, found_quote]
  | arr items =>
    cases levels with
    | zero => exact plain.elim
    | succ levels =>
      have hopening (cs : List Symbol) : found (some '[' :: cs) = .ok (.sequence, cs) := rfl
      have hfilled : ∀ part ∈ items.map chars, part ≠ [] := by
        intro part hpart
        obtain ⟨x, hx, rfl⟩ := List.mem_map.mp hpart
        obtain ⟨c, cs, hcs, -⟩ := (plain x hx).opens
        exact hcs ▸ List.cons_ne_nil c cs
      have henough := parts_lt_fuel hfilled (some ']' :: rest)
      rw [List.length_map] at henough
      have hitems := items_separated plain (fun x hx => value_restores (plain x hx)) henough true [] rest
      rw [chars, charsOfItems_eq, List.map_append, List.append_assoc, List.map_cons, List.cons_append,
        value, hopening]
      exact congrArg (Except.map _) hitems
  | obj members =>
    cases levels with
    | zero => exact plain.elim
    | succ levels =>
      obtain ⟨hordered, hplain⟩ := plain
      have hopening (cs : List Symbol) : found (some '{' :: cs) = .ok (.map, cs) := rfl
      have hfilled : ∀ part ∈ members.map charsOfMember, part ≠ [] := by
        intro part hpart
        obtain ⟨m, -, rfl⟩ := List.mem_map.mp hpart
        exact List.cons_ne_nil _ _
      have henough := parts_lt_fuel hfilled (some '}' :: rest)
      rw [List.length_map] at henough
      have hmembers := members_separated (fun m hm => value_restores (hplain m hm)) henough true [] rest
      rw [chars, charsOfMembers_eq, List.map_append, List.append_assoc, List.map_cons, List.cons_append,
        value, hopening, ← sortedObj_of_ordered hordered]
      exact congrArg (Except.map _) hmembers
termination_by levels

end Read

end Matchday.Json
