import Matchday.Time.Calendar
import Mathlib.Tactic.IntervalCases

set_option autoImplicit false

namespace Matchday.Date

/-- The years of an era that have passed, and the days of the year: a 366th only in a year that ends with
the February of a leap year. -/
structure Passed (dayOfEra years days : Int) : Prop where
  split : dayOfEra = 365 * years + years / 4 - years / 100 + days
  years_nonneg : 0 ≤ years
  years_lt : years < 400
  days_nonneg : 0 ≤ days
  days_le : days ≤ 365
  leap : days = 365 → isLeapYear (years + 1) = true

theorem isLeapYear_iff (y : Int) : isLeapYear y = true ↔ y % 4 = 0 ∧ (y % 100 = 0 → y % 400 = 0) := by
  rw [isLeapYear, Bool.and_eq_true, Bool.or_eq_true, beq_iff_eq, bne_iff_ne, beq_iff_eq]
  omega

theorem isLeapYear_add_era (y era : Int) : isLeapYear (y + era * 400) = isLeapYear y := by
  rw [Bool.eq_iff_iff, isLeapYear_iff, isLeapYear_iff]
  omega

theorem exists_cycles {dayOfEra : Int} (nonneg : 0 ≤ dayOfEra) (lt : dayOfEra < 146097) :
    ∃ century cycle year days : Int,
      dayOfEra = 36524 * century + 1461 * cycle + 365 * year + days ∧
        (0 ≤ century ∧ century ≤ 3) ∧ (0 ≤ cycle ∧ cycle ≤ 24) ∧ (0 ≤ year ∧ year ≤ 3) ∧
        (0 ≤ days ∧ days ≤ 365) ∧ (days = 365 → year = 3 ∧ (cycle = 24 → century = 3)) := by
  -- The last century and the last year of a cycle take the day that is left over.
  let century := min (dayOfEra / 36524) 3
  let ofCentury := dayOfEra - 36524 * century
  let ofCycle := ofCentury % 1461
  refine ⟨century, ofCentury / 1461, min (ofCycle / 365) 3, ofCycle - 365 * min (ofCycle / 365) 3, ?_⟩
  have hcentury : 0 ≤ century ∧ century ≤ 3 := by omega
  have hofCentury : 0 ≤ ofCentury ∧ (ofCentury ≤ 36523 ∨ century = 3 ∧ ofCentury = 36524) := by omega
  omega

theorem years_of_cycles {dayOfEra century cycle year days : Int}
    (hday : dayOfEra = 36524 * century + 1461 * cycle + 365 * year + days)
    (hcentury : 0 ≤ century ∧ century ≤ 3) (hcycle : 0 ≤ cycle ∧ cycle ≤ 24) (hyear : 0 ≤ year ∧ year ≤ 3)
    (hdays : 0 ≤ days ∧ days ≤ 365) (hlast : days = 365 → year = 3 ∧ (cycle = 24 → century = 3)) :
    (dayOfEra - dayOfEra / 1460 + dayOfEra / 36524 - dayOfEra / 146096) / 365 =
      100 * century + 4 * cycle + year := by
  have hcenturies : dayOfEra / 36524 = century ∨
      dayOfEra / 36524 = 4 ∧ century = 3 ∧ cycle = 24 ∧ year = 3 ∧ days = 365 := by omega
  have heras : dayOfEra / 146096 = 0 ∧ ¬ (century = 3 ∧ cycle = 24 ∧ year = 3 ∧ days = 365) ∨
      dayOfEra / 146096 = 1 ∧ century = 3 ∧ cycle = 24 ∧ year = 3 ∧ days = 365 := by omega
  have hcycles : dayOfEra / 1460 = 25 * century + cycle ∨ dayOfEra / 1460 = 25 * century + cycle + 1 := by
    omega
  omega

theorem passed_of_cycles {dayOfEra century cycle year days : Int}
    (hday : dayOfEra = 36524 * century + 1461 * cycle + 365 * year + days)
    (hcentury : 0 ≤ century ∧ century ≤ 3) (hcycle : 0 ≤ cycle ∧ cycle ≤ 24) (hyear : 0 ≤ year ∧ year ≤ 3)
    (hdays : 0 ≤ days ∧ days ≤ 365) (hlast : days = 365 → year = 3 ∧ (cycle = 24 → century = 3)) :
    Passed dayOfEra (100 * century + 4 * cycle + year) days := by
  constructor
  · omega
  · omega
  · omega
  · omega
  · omega
  · intro h
    rw [isLeapYear_iff]
    have := hlast h
    omega

def fromMarch (era years days : Int) : Date :=
  let monthFromMarch := (5 * days + 2) / 153
  let month := if monthFromMarch < 10 then monthFromMarch + 3 else monthFromMarch - 9
  ⟨years + era * 400 + (if month ≤ 2 then 1 else 0), month,
    days - (153 * monthFromMarch + 2) / 5 + 1⟩

variable {dayOfEra era years days : Int}

theorem exists_fromMarch (n : Int) : ∃ era dayOfEra years days,
    n = era * 146097 + dayOfEra - 719468 ∧ Passed dayOfEra years days ∧
      ofDays n = fromMarch era years days := by
  have hnonneg : 0 ≤ n + 719468 - (n + 719468) / 146097 * 146097 := by omega
  have hlt : n + 719468 - (n + 719468) / 146097 * 146097 < 146097 := by omega
  obtain ⟨century, cycle, year, days, hday, hcentury, hcycle, hyear, hdays, hlast⟩ :=
    exists_cycles hnonneg hlt
  have hpassed := passed_of_cycles hday hcentury hcycle hyear hdays hlast
  refine ⟨(n + 719468) / 146097, _, _, days, by omega, hpassed, ?_⟩
  have hrest := hpassed.split
  simp only [ofDays, years_of_cycles hday hcentury hcycle hyear hdays hlast, fromMarch]
  rw [← sub_eq_iff_eq_add'.mpr hrest]

theorem toDays_fromMarch (h : Passed dayOfEra years days) :
    (fromMarch era years days).toDays = era * 146097 + dayOfEra - 719468 := by
  obtain ⟨hsplit, hyears, hyears', hdays, hdays', -⟩ := h
  generalize hmonth : (5 * days + 2) / 153 = month
  have hrange : 0 ≤ month ∧ month ≤ 11 := by omega
  have hera : (years + era * 400) / 400 = era := by omega
  by_cases hfirst : month < 10
  · have hlate : ¬ month + 3 ≤ 2 := by omega
    have hlate' : month + 3 > 2 := by omega
    simp only [fromMarch, toDays, hmonth, hfirst, if_true, hlate, hlate', if_false]
    omega
  · have hearly : month - 9 ≤ 2 := by omega
    have hearly' : ¬ month - 9 > 2 := by omega
    simp only [fromMarch, toDays, hmonth, hfirst, if_true, hearly, hearly', if_false]
    omega

theorem valid_fromMarch (h : Passed dayOfEra years days) : (fromMarch era years days).Valid := by
  obtain ⟨-, -, -, hdays, hdays', hleap⟩ := h
  generalize hmonth : (5 * days + 2) / 153 = month
  have hfirst : 0 ≤ month := by omega
  have hlast : month ≤ 11 := by omega
  have hyear : isLeapYear (years + era * 400 + 1) = isLeapYear (years + 1) := by
    rw [← isLeapYear_add_era (years + 1) era]
    congr 1
    omega
  simp only [fromMarch, Valid, hmonth, daysInMonth]
  interval_cases month
  case «11» =>
    simp only [show ¬ (11 : Int) < 10 by decide, show (11 : Int) - 9 = 2 by decide, le_refl, if_false, if_true,
      hyear]
    refine ⟨by decide, by decide, by omega, ?_⟩
    split_ifs with hleapYear
    · omega
    · have hshort : days ≠ 365 := fun h => hleapYear (hleap h)
      omega
  all_goals
    norm_num
    omega

theorem toDays_ofDays (n : Int) : (ofDays n).toDays = n := by
  obtain ⟨era, dayOfEra, years, days, rfl, hpassed, hdate⟩ := exists_fromMarch n
  rw [hdate, toDays_fromMarch hpassed]

theorem valid_ofDays (n : Int) : (ofDays n).Valid := by
  obtain ⟨era, dayOfEra, years, days, rfl, hpassed, hdate⟩ := exists_fromMarch n
  rw [hdate]
  exact valid_fromMarch hpassed

theorem le_year_ofDays_iff (y n : Int) : y ≤ (ofDays n).year ↔ toDays ⟨y, 1, 1⟩ ≤ n := by
  obtain ⟨era, dayOfEra, years, days, rfl, ⟨hsplit, hyears, hyears', hdays, hdays', -⟩, hdate⟩ :=
    exists_fromMarch n
  have hyear : (fromMarch era years days).year = years + era * 400 + if 306 ≤ days then 1 else 0 := by
    simp only [fromMarch]
    congr 1
    split_ifs <;> omega
  have hfirst : toDays ⟨y, 1, 1⟩ = (y - 1) / 400 * 146097 +
      (365 * ((y - 1) % 400) + (y - 1) % 400 / 4 - (y - 1) % 400 / 100 + 306) - 719468 := by
    simp only [toDays]
    norm_num
    omega
  rw [hdate, hyear, hfirst]
  split_ifs <;> omega

end Matchday.Date
