import Matchday.Proofs.CalendarDays
import Matchday.Time.Rfc3339
import Mathlib.Tactic.Ring

set_option autoImplicit false

namespace Matchday

open Matchday

namespace Rfc3339

section

variable {ds : List Char} (digital : ∀ c ∈ ds, c.isDigit = true)

include digital

theorem digits_append (acc : Nat) (rest : List Char) :
    digits ds.length acc (ds ++ rest) = some (Nat.ofDigitChars 10 ds acc, rest) := by
  induction ds generalizing acc with
  | nil => rfl
  | cons d ds ih =>
    have hd : digit? d = some (d.toNat - 48) := if_pos (digital d List.mem_cons_self)
    rw [List.length_cons, List.cons_append, digits, hd, Option.bind_some, Nat.ofDigitChars_cons,
      Nat.mul_comm 10 acc]
    exact ih (fun c hc => digital c (List.mem_cons_of_mem d hc)) _

theorem fractionDigits_append {rest : List Char} (ended : ∀ c ∈ rest.head?, c.isDigit = false)
    (m acc : Nat) :
    fractionDigits (10 ^ (ds.length + m) / 10) acc (ds ++ rest) =
      (acc + Nat.ofDigitChars 10 ds 0 * 10 ^ m, rest) := by
  induction ds generalizing acc with
  | nil =>
    rw [List.nil_append, Nat.ofDigitChars_nil, Nat.zero_mul, Nat.add_zero]
    cases rest with
    | nil => rfl
    | cons c cs => simp [fractionDigits, digit?, ended c rfl]
  | cons d ds ih =>
    have hd : digit? d = some (d.toNat - 48) := if_pos (digital d List.mem_cons_self)
    have hweight : 10 ^ ((d :: ds).length + m) / 10 = 10 ^ (ds.length + m) := by
      rw [List.length_cons, Nat.add_right_comm, Nat.pow_succ, Nat.mul_div_cancel _ (by decide)]
    rw [hweight, List.cons_append, fractionDigits, hd]
    dsimp only
    have hrest : Nat.ofDigitChars 10 (d :: ds) 0 =
        10 ^ ds.length * (d.toNat - 48) + Nat.ofDigitChars 10 ds 0 := by
      rw [Nat.ofDigitChars_cons, Nat.ofDigitChars_eq_ofDigitChars_zero, Nat.mul_zero, Nat.zero_add]
      rfl
    rw [ih fun c hc => digital c (List.mem_cons_of_mem d hc), hrest, Nat.pow_add]
    congr 1
    ring

end

section

variable {width n : Nat} (positive : 0 < width) (fits : n < 10 ^ width)

theorem toList_padded (width n : Nat) :
    (padded width n).toList =
      List.replicate (width - (Nat.toDigits 10 n).length) '0' ++ Nat.toDigits 10 n := by
  have hdigits : (toString n).toList = Nat.toDigits 10 n := by
    rw [Nat.toString_eq_ofList_toDigits, String.toList_ofList]
  rw [padded, String.toList_append, String.toList_ofList, hdigits, ← String.length_toList, hdigits]

theorem isDigit_padded (width n : Nat) : ∀ c ∈ (padded width n).toList, c.isDigit = true := by
  intro c hc
  rw [toList_padded] at hc
  rcases List.mem_append.mp hc with hc | hc
  · rw [List.eq_of_mem_replicate hc]
    rfl
  · exact Nat.isDigit_of_mem_toDigits (by decide) (by decide) hc

theorem ofDigitChars_padded (width n : Nat) : Nat.ofDigitChars 10 (padded width n).toList 0 = n := by
  rw [toList_padded, Nat.ofDigitChars_append, Nat.ofDigitChars_replicate_zero, Nat.mul_zero,
    Nat.ofDigitChars_ten_toDigits]

include positive fits

theorem length_padded : (padded width n).toList.length = width := by
  have hlength := (Nat.length_toDigits_le_iff (by decide) positive).mpr fits
  rw [toList_padded, List.length_append, List.length_replicate]
  omega

theorem digits_padded (rest : List Char) :
    digits width 0 ((padded width n).toList ++ rest) = some (n, rest) := by
  have hread := digits_append (isDigit_padded width n) 0 rest
  rwa [length_padded positive fits, ofDigitChars_padded] at hread

end

theorem fraction_padded {width v m : Nat} (positive : 0 < width) (fits : v < 10 ^ width)
    (places : width + m = 9) (rest : List Char) :
    fraction ('.' :: ((padded width v).toList ++ '+' :: rest)) = some (v * 10 ^ m, '+' :: rest) := by
  have hended : ∀ c ∈ ('+' :: rest).head?, c.isDigit = false := by simp [Char.isDigit]
  have hread := fractionDigits_append (isDigit_padded width v) hended m 0
  rw [length_padded positive fits, places, ofDigitChars_padded, Nat.zero_add] at hread
  have hlength := length_padded positive fits
  cases hdigits : (padded width v).toList with
  | nil =>
    rw [hdigits] at hlength
    exact absurd hlength positive.ne
  | cons d ds =>
    have hd : d.isDigit = true := isDigit_padded width v d (hdigits ▸ List.mem_cons_self)
    rw [hdigits] at hread
    rw [List.cons_append, fraction, if_pos hd]
    exact congrArg some hread

theorem fraction_fractionText {nanos : Nat} (fits : nanos < nanosPerSecond) (rest : List Char) :
    fraction ((fractionText nanos).toList ++ '+' :: rest) = some (nanos, '+' :: rest) := by
  have hdot (width v : Nat) : ("." ++ padded width v).toList = '.' :: (padded width v).toList := by
    rw [String.toList_append]
    rfl
  rw [nanosPerSecond] at fits
  rw [fractionText]
  split_ifs with hzero hmillis hmicros
  · rw [hzero]
    rfl
  · rw [hdot, List.cons_append, fraction_padded (m := 6) (by decide) (by omega) rfl]
    congr 2
    omega
  · rw [hdot, List.cons_append, fraction_padded (m := 3) (by decide) (by omega) rfl]
    congr 2
    omega
  · rw [hdot, List.cons_append, fraction_padded (m := 0) (by decide) (by omega) rfl]
    congr 2
    omega

end Rfc3339

namespace Instant

/-- Whether a clock shows the instant: its nanoseconds are those of a second or, at the end of a minute, of
a leap second. -/
def OnClock (i : Instant) : Prop :=
  i.nanos < nanosPerSecond ∨ i.nanos < 2 * nanosPerSecond ∧ i.seconds % 60 = 59

def utcYear (i : Instant) : Int := (Date.ofDays (i.seconds / 86400)).year

def FourDigitYear (i : Instant) : Prop := 0 ≤ i.utcYear ∧ i.utcYear ≤ 9999

instance (i : Instant) : Decidable i.FourDigitYear := inferInstanceAs (Decidable (_ ∧ _))

theorem fourDigitYear_iff (i : Instant) :
    i.FourDigitYear ↔ -62167219200 ≤ i.seconds ∧ i.seconds ≤ 253402300799 := by
  have hfirst := Date.le_year_ofDays_iff 0 (i.seconds / 86400)
  have hlast := Date.le_year_ofDays_iff 10000 (i.seconds / 86400)
  have hzero : Date.toDays ⟨0, 1, 1⟩ = -719528 := by decide
  have hend : Date.toDays ⟨10000, 1, 1⟩ = 2932897 := by decide
  rw [FourDigitYear, utcYear]
  omega

end Instant

namespace Rfc3339

variable {i : Instant}

def secondText (i : Instant) : Nat × Nat :=
  let time := (i.seconds % 86400).toNat
  if i.isLeap then (time % 60 + 1, i.nanos - nanosPerSecond) else (time % 60, i.nanos)

theorem toList_render (i : Instant) :
    let date := Date.ofDays (i.seconds / 86400)
    let time := (i.seconds % 86400).toNat
    (render i).toList = (year date.year).toList ++ '-' :: ((padded 2 date.month.toNat).toList ++
      '-' :: ((padded 2 date.day.toNat).toList ++ 'T' :: ((padded 2 (time / 3600)).toList ++
      ':' :: ((padded 2 (time / 60 % 60)).toList ++ ':' :: ((padded 2 (secondText i).1).toList ++
      ((fractionText (secondText i).2).toList ++ '+' :: "00:00".toList)))))) := by
  intro date time
  change (year date.year ++ "-" ++ padded 2 date.month.toNat ++ "-" ++ padded 2 date.day.toNat ++ "T"
    ++ padded 2 (time / 3600) ++ ":" ++ padded 2 (time / 60 % 60) ++ ":" ++ padded 2 (secondText i).1
    ++ fractionText (secondText i).2 ++ "+00:00").toList = _
  have hdash : "-".toList = ['-'] := rfl
  have ht : "T".toList = ['T'] := rfl
  have hcolon : ":".toList = [':'] := rfl
  have hzone : "+00:00".toList = '+' :: "00:00".toList := rfl
  simp only [String.toList_append, List.append_assoc, hdash, ht, hcolon, hzone, List.cons_append,
    List.nil_append]

theorem secondText_spec (clock : i.OnClock) :
    (secondText i).1 ≤ 60 ∧ (secondText i).2 < nanosPerSecond ∧
      (if (secondText i).1 = 60 then (59, (secondText i).2 + nanosPerSecond) else secondText i) =
        ((i.seconds % 60).toNat, i.nanos) := by
  by_cases hleap : i.isLeap = true
  · have hnanos : nanosPerSecond ≤ i.nanos := of_decide_eq_true hleap
    obtain ⟨hnanos', hminute⟩ := clock.resolve_left (by omega)
    have hsecond : (i.seconds % 86400).toNat % 60 + 1 = 60 := by omega
    simp only [secondText, hleap, if_true, hsecond, hminute]
    refine ⟨le_refl _, by omega, ?_⟩
    rw [Nat.sub_add_cancel hnanos]
    rfl
  · have hnanos : i.nanos < nanosPerSecond := by
      simpa [Instant.isLeap] using hleap
    have hsecond : (i.seconds % 86400).toNat % 60 < 60 := Nat.mod_lt _ (by decide)
    simp only [secondText, hleap, if_neg hsecond.ne, Bool.false_eq_true, if_false]
    refine ⟨hsecond.le, hnanos, ?_⟩
    congr 1
    omega

theorem parse?_render (clock : i.OnClock) (fourDigits : i.FourDigitYear) :
    parse? (render i) = some i := by
  obtain ⟨low, high⟩ := fourDigits
  obtain ⟨hmonth, hmonth', hday, hday'⟩ := Date.valid_ofDays (i.seconds / 86400)
  have hdays := Date.toDays_ofDays (i.seconds / 86400)
  have hvalid := Date.valid_ofDays (i.seconds / 86400)
  obtain ⟨hsecond, hnanos, hread⟩ := secondText_spec clock
  have hlong : Date.daysInMonth (Date.ofDays (i.seconds / 86400)).year
      (Date.ofDays (i.seconds / 86400)).month ≤ 31 := by
    rw [Date.daysInMonth]
    split_ifs <;> decide
  rw [Instant.utcYear] at low high
  rw [parse?, toList_render]
  generalize Date.ofDays (i.seconds / 86400) = date at *
  generalize htime : (i.seconds % 86400).toNat = time
  generalize secondText i = written at *
  obtain ⟨second, nanos⟩ := written
  dsimp only at hsecond hnanos hread ⊢
  have hdate : (⟨(date.year.toNat : Int), (date.month.toNat : Int), (date.day.toNat : Int)⟩ : Date) = date := by
    rw [Int.toNat_of_nonneg low, Int.toNat_of_nonneg (by omega), Int.toNat_of_nonneg (by omega)]
  have hyear : year date.year = padded 4 date.year.toNat := if_pos ⟨low, high⟩
  rw [hyear]
  refine Option.bind_eq_some_iff.mpr ⟨_, digits_padded (by decide) (by omega) _, ?_⟩
  refine Option.bind_eq_some_iff.mpr ⟨_, rfl, ?_⟩
  refine Option.bind_eq_some_iff.mpr ⟨_, digits_padded (by decide) (by omega) _, ?_⟩
  refine Option.bind_eq_some_iff.mpr ⟨_, rfl, ?_⟩
  refine Option.bind_eq_some_iff.mpr ⟨_, digits_padded (by decide) (by omega) _, ?_⟩
  refine Option.bind_eq_some_iff.mpr ⟨_, rfl, ?_⟩
  refine Option.bind_eq_some_iff.mpr ⟨_, digits_padded (by decide) (by omega) _, ?_⟩
  refine Option.bind_eq_some_iff.mpr ⟨_, rfl, ?_⟩
  refine Option.bind_eq_some_iff.mpr ⟨_, digits_padded (by decide) (by omega) _, ?_⟩
  refine Option.bind_eq_some_iff.mpr ⟨_, rfl, ?_⟩
  refine Option.bind_eq_some_iff.mpr ⟨_, digits_padded (by decide) (by omega) _, ?_⟩
  refine Option.bind_eq_some_iff.mpr ⟨_, fraction_fractionText hnanos _, ?_⟩
  refine Option.bind_eq_some_iff.mpr ⟨(0, []), rfl, ?_⟩
  dsimp only
  rw [hdate, if_pos ⟨rfl, hvalid, by omega, by omega, hsecond⟩, hread]
  obtain ⟨seconds, count⟩ := i
  congr 2
  dsimp only at hdays htime ⊢
  omega

theorem parse?_render_of_signed (signed : ¬ i.FourDigitYear) :
    parse? (render i) = none := by
  obtain ⟨sign, rest, hsign, hyear⟩ : ∃ sign rest, digit? sign = none ∧
      (year i.utcYear).toList = sign :: rest := by
    rw [Instant.FourDigitYear] at signed
    rw [year, if_neg signed]
    split_ifs
    · exact ⟨'-', _, rfl, by rw [String.toList_append]; rfl⟩
    · exact ⟨'+', _, rfl, by rw [String.toList_append]; rfl⟩
  have hunread (cs : List Char) : digits 4 0 (sign :: cs) = none := by
    rw [digits, hsign]
    rfl
  rw [Instant.utcYear] at hyear
  rw [parse?, toList_render, hyear, List.cons_append, hunread]
  rfl

theorem minutes_of_offset {cs rest : List Char} {east : Int} (h : offset cs = some (east, rest)) :
    east % 60 = 0 := by
  cases cs with
  | nil => cases h
  | cons c cs =>
    rw [offset] at h
    split at h
    · cases h
      rfl
    · obtain ⟨sign, -, h⟩ := Option.bind_eq_some_iff.mp h
      obtain ⟨⟨hours, _⟩, -, h⟩ := Option.bind_eq_some_iff.mp h
      obtain ⟨_, -, h⟩ := Option.bind_eq_some_iff.mp h
      obtain ⟨⟨minutes, _⟩, -, h⟩ := Option.bind_eq_some_iff.mp h
      dsimp only at h
      split_ifs at h
      cases h
      have hminutes : (hours : Int) * 3600 + minutes * 60 = (hours * 60 + minutes) * 60 := by ring
      rw [hminutes, ← mul_assoc]
      exact Int.mul_emod_left _ _

theorem digit?_le {c : Char} {d : Nat} (h : digit? c = some d) : d ≤ 9 := by
  rw [digit?] at h
  split_ifs at h with hc
  cases h
  simp only [Char.isDigit, Bool.and_eq_true, decide_eq_true_eq] at hc
  have hnine : c.toNat ≤ 57 := hc.2
  omega

theorem fractionDigits_le (weight acc : Nat) (cs : List Char) :
    (fractionDigits weight acc cs).1 ≤ acc + (10 * weight - 1) := by
  induction cs generalizing weight acc with
  | nil => exact Nat.le_add_right _ _
  | cons c cs ih =>
    rw [fractionDigits]
    cases hd : digit? c with
    | none => exact Nat.le_add_right _ _
    | some d =>
      have hdigit : d * weight ≤ 9 * weight := Nat.mul_le_mul_right weight (digit?_le hd)
      have hrest := ih (weight / 10) (acc + d * weight)
      dsimp only
      omega

theorem fraction_lt {cs rest : List Char} {nanos : Nat} (h : fraction cs = some (nanos, rest)) :
    nanos < nanosPerSecond := by
  unfold fraction at h
  split at h
  · next c cs =>
    split_ifs at h
    have hle := fractionDigits_le 100000000 0 (c :: cs)
    rw [Option.some.inj h] at hle
    exact Nat.lt_of_le_of_lt hle (by decide)
  · cases h
  · cases h
    decide

theorem onClock_of_parse? {text : String} (h : parse? text = some i) : i.OnClock := by
  obtain ⟨⟨year, _⟩, -, h⟩ := Option.bind_eq_some_iff.mp h
  obtain ⟨_, -, h⟩ := Option.bind_eq_some_iff.mp h
  obtain ⟨⟨month, _⟩, -, h⟩ := Option.bind_eq_some_iff.mp h
  obtain ⟨_, -, h⟩ := Option.bind_eq_some_iff.mp h
  obtain ⟨⟨day, _⟩, -, h⟩ := Option.bind_eq_some_iff.mp h
  obtain ⟨_, -, h⟩ := Option.bind_eq_some_iff.mp h
  obtain ⟨⟨hour, _⟩, -, h⟩ := Option.bind_eq_some_iff.mp h
  obtain ⟨_, -, h⟩ := Option.bind_eq_some_iff.mp h
  obtain ⟨⟨minute, _⟩, -, h⟩ := Option.bind_eq_some_iff.mp h
  obtain ⟨_, -, h⟩ := Option.bind_eq_some_iff.mp h
  obtain ⟨⟨second, _⟩, -, h⟩ := Option.bind_eq_some_iff.mp h
  obtain ⟨⟨nanos, _⟩, hfraction, h⟩ := Option.bind_eq_some_iff.mp h
  obtain ⟨⟨east, _⟩, hoffset, h⟩ := Option.bind_eq_some_iff.mp h
  have hnanos := fraction_lt hfraction
  have heast := minutes_of_offset hoffset
  dsimp only at h
  split_ifs at h with hvalid hleap
  · cases h
    right
    exact ⟨by dsimp only; omega, by dsimp only; omega⟩
  · cases h
    exact .inl hnanos

end Rfc3339

end Matchday
