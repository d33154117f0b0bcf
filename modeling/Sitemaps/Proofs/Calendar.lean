import Mathlib.Tactic.IntervalCases
import Sitemaps.Time.Calendar

/-!
The calendar counted out. The days before a date are those of the years and months before it, with
a leap year every four years but for three in four centuries, and every day is one date.
-/

namespace Sitemaps.Time

section Counting

def Leap (year : Nat) : Prop := 4 ∣ year ∧ (100 ∣ year → 400 ∣ year)

instance (year : Nat) : Decidable (Leap year) := inferInstanceAs (Decidable (_ ∧ _))

def monthLengths (year : Nat) : List Nat :=
  [31, if Leap year then 29 else 28, 31, 30, 31, 30, 31, 31, 30, 31, 30, 31]

def total (lengths : List Nat) : Nat := lengths.foldr (· + ·) 0

def daysBeforeYear : Nat → Nat
  | 0 => 0
  | year + 1 => daysBeforeYear year + total (monthLengths year)

def dayCount (year month day : Nat) : Nat :=
  daysBeforeYear year + total ((monthLengths year).take (month - 1)) + day

/-- Days between 1970-01-01 and a day. -/
def daysSinceEpoch (year month day : Nat) : Int := dayCount year month day - dayCount 1970 1 1

structure DayExists (year month day : Nat) : Prop where
  inYear : 1 ≤ month ∧ month ≤ 12
  inMonth : 1 ≤ day ∧ day ≤ (monthLengths year).getD (month - 1) 0

theorem dayExists_iff {year month day : Nat} : DayExists year month day ↔
    (1 ≤ month ∧ month ≤ 12) ∧ 1 ≤ day ∧ day ≤ (monthLengths year).getD (month - 1) 0 :=
  ⟨fun found => ⟨found.inYear, found.inMonth⟩, fun ⟨inYear, inMonth⟩ => ⟨inYear, inMonth⟩⟩

instance (year month day : Nat) : Decidable (DayExists year month day) :=
  decidable_of_iff _ dayExists_iff.symm

end Counting

section Lengths

variable {year month day : Nat}

theorem isLeap_remainders (year : Int) :
    isLeap year = true ↔ year % 4 = 0 ∧ (year % 100 ≠ 0 ∨ year % 400 = 0) := by
  simp only [isLeap, Bool.and_eq_true, Bool.or_eq_true, beq_iff_eq, bne_iff_ne]

theorem isLeap_iff (year : Nat) : isLeap year = true ↔ Leap year := by
  rw [isLeap_remainders, Leap]
  omega

theorem daysIn_eq (year : Nat) (low : 1 ≤ month) (high : month ≤ 12) :
    daysIn year month = (monthLengths year).getD (month - 1) 0 := by
  have february : daysIn year 2 = if Leap year then 29 else 28 := by
    simp only [daysIn, isLeap_iff]
  interval_cases month
  case «2» => exact february
  all_goals rfl

theorem daysIn_le (year : Int) (month : Nat) : daysIn year month ≤ 31 := by
  unfold daysIn
  split
  · split <;> decide
  all_goals decide

theorem isValid_iff (small : year ≤ 9999) :
    Date.isValid ⟨year, month, day⟩ = true ↔ DayExists year month day := by
  simp only [Date.isValid, Bool.and_eq_true, decide_eq_true_eq, dayExists_iff]
  constructor
  · rintro ⟨⟨⟨⟨-, low⟩, high⟩, first⟩, last⟩
    rw [daysIn_eq year low high] at last
    exact ⟨⟨low, high⟩, first, last⟩
  · rintro ⟨⟨low, high⟩, first, last⟩
    rw [daysIn_eq year low high]
    have within : leastYear ≤ (year : Int) ∧ (year : Int) ≤ greatestYear := by
      unfold leastYear greatestYear
      omega
    exact ⟨⟨⟨⟨within, low⟩, high⟩, first⟩, last⟩

end Lengths

section Years

def daysBeforeMarch (year : Int) : Int :=
  year / 400 * 146097 + (year % 400 * 365 + year % 400 / 4 - year % 400 / 100)

theorem total_monthLengths (year : Nat) :
    total (monthLengths year) = if Leap year then 366 else 365 := by
  simp only [total, monthLengths, List.foldr]
  split <;> rfl

theorem daysBeforeMarch_pred (year : Nat) :
    daysBeforeMarch (year - 1) + total (monthLengths year) = daysBeforeMarch year := by
  rw [total_monthLengths]
  unfold daysBeforeMarch
  split
  · rename_i leap
    unfold Leap at leap
    omega
  · rename_i common
    unfold Leap at common
    omega

theorem daysBeforeMarch_eq (year : Nat) : daysBeforeMarch year + 60 =
    daysBeforeYear year + total ((monthLengths year).take 2) := by
  induction year with
  | zero => decide
  | succ year ih =>
    have months (year : Nat) :
        total (monthLengths year) = total ((monthLengths year).take 2) + 306 := by
      simp [total, monthLengths]
      omega
    have before := daysBeforeMarch_pred (year + 1)
    rw [Int.natCast_succ, Int.add_sub_cancel] at before
    rw [daysBeforeYear, Int.natCast_succ, ← before]
    have here := months year
    have next := months (year + 1)
    omega

theorem Date.days_march (year : Int) (month day : Nat) : Date.days ⟨year, month, day⟩ =
    if month ≤ 2 then daysBeforeMarch (year - 1) + daysBefore (month + 9) + day - 719469
    else daysBeforeMarch year + daysBefore (month - 3) + day - 719469 := by
  unfold Date.days daysBeforeMarch
  dsimp only
  split <;> omega

theorem Date.days_count {year month day : Nat} (low : 1 ≤ month) (high : month ≤ 12) :
    Date.days ⟨year, month, day⟩ = dayCount year month day - 719529 := by
  have march := daysBeforeMarch_eq year
  have january := daysBeforeMarch_pred year
  rw [Date.days_march, dayCount]
  simp only [total, monthLengths, daysBefore] at march january ⊢
  interval_cases month <;> simp at march january ⊢ <;> omega

theorem Date.days_eq {year month day : Nat} (low : 1 ≤ month) (high : month ≤ 12) :
    Date.days ⟨year, month, day⟩ = daysSinceEpoch year month day := by
  have first : Date.days ⟨(1970 : Nat), 1, 1⟩ = 0 := by decide
  have epoch : (dayCount 1970 1 1 : Int) - 719529 = 0 := by
    rw [← Date.days_count (by decide) (by decide), first]
  rw [Date.days_count low high, daysSinceEpoch]
  omega

theorem Date.days_within {year month day : Nat} (small : year ≤ 9999)
    (found : DayExists year month day) : leastDay < Date.days ⟨year, month, day⟩ ∧
      Date.days ⟨year, month, day⟩ < greatestDay := by
  obtain ⟨⟨low, high⟩, first, last⟩ := found
  have least : leastDay < -800000 := by decide
  have greatest : 3000000 < greatestDay := by decide
  have most := daysIn_le year month
  rw [daysIn_eq year low high] at most
  rw [Date.days_march]
  unfold daysBeforeMarch daysBefore
  split <;> omega

end Years

section Cycles

/-- A day of the four hundred years from a 1 March on: the century, the span of four years in it,
the year of the span and the day of the year. Only a year before a leap day has 366 days. -/
structure CycleDay where
  century : Int
  span : Int
  year : Int
  dayOfYear : Int
  centuries : 0 ≤ century ∧ century ≤ 3
  spans : 0 ≤ span ∧ span ≤ 24
  years : 0 ≤ year ∧ year ≤ 3
  days : 0 ≤ dayOfYear ∧ dayOfYear ≤ 365
  leapDay : dayOfYear = 365 → year = 3 ∧ (span = 24 → century = 3)

namespace CycleDay

def number (day : CycleDay) : Int :=
  36524 * day.century + 1461 * day.span + 365 * day.year + day.dayOfYear

def yearOfCycle (day : CycleDay) : Int := 100 * day.century + 4 * day.span + day.year

def month (day : CycleDay) : Nat := ((5 * day.dayOfYear + 2) / 153).toNat

def dayOfMonth (day : CycleDay) : Int := day.dayOfYear - daysBefore day.month + 1

theorem exists_number {number : Int} (low : 0 ≤ number) (high : number < 146097) :
    ∃ day : CycleDay, day.number = number := by
  let century := min (number / 36524) 3
  let dayOfCentury := number - 36524 * century
  let span := dayOfCentury / 1461
  let dayOfSpan := dayOfCentury % 1461
  let year := min (dayOfSpan / 365) 3
  let dayOfYear := dayOfSpan - 365 * year
  have centuries : 0 ≤ century ∧ century ≤ 3 := by omega
  have spans : 0 ≤ span ∧ span ≤ 24 := by omega
  have years : 0 ≤ year ∧ year ≤ 3 := by omega
  have days : 0 ≤ dayOfYear ∧ dayOfYear ≤ 365 := by omega
  have leapDay : dayOfYear = 365 → year = 3 ∧ (span = 24 → century = 3) := by omega
  refine ⟨⟨century, span, year, dayOfYear, centuries, spans, years, days, leapDay⟩, ?_⟩
  simp only [CycleDay.number]
  omega

variable (day : CycleDay)

theorem yearOfCycle_number : (day.number - day.number / 1460 + day.number / 36524 -
    day.number / 146096) / 365 = day.yearOfCycle := by
  obtain ⟨century, span, year, dayOfYear, centuries, spans, years, days, leapDay⟩ := day
  simp only [number, yearOfCycle]
  generalize whole : 36524 * century + 1461 * span + 365 * year + dayOfYear = number
  -- Spans are a day longer than 1460, so the last days of one are counted to the next one.
  have inSpans : number / 1460 =
      25 * century + span +
        if 24 * century + span + 365 * year + dayOfYear < 1460 then 0 else 1 := by
    split <;> omega
  -- The last day of a cycle is one more than four centuries have, and counts as none.
  have lastDay : 1461 * span + 365 * year + dayOfYear < 36524 ∨ number = 146096 := by
    by_cases long : dayOfYear = 365 ∧ span = 24
    · obtain ⟨last, fourth⟩ := leapDay long.1
      have final := fourth long.2
      omega
    · omega
  have inCenturies : number / 36524 - number / 146096 = century := by
    rcases lastDay with before | last
    · have none : number / 146096 = 0 := by omega
      have some : number / 36524 = century := by omega
      omega
    · omega
  split at inSpans <;> omega

theorem dayOfYear_number : day.number - (365 * day.yearOfCycle + day.yearOfCycle / 4 -
    day.yearOfCycle / 100) = day.dayOfYear := by
  obtain ⟨century, span, year, dayOfYear, ⟨_, _⟩, ⟨_, _⟩, ⟨_, _⟩, ⟨_, _⟩, leapDay⟩ := day
  simp only [number, yearOfCycle]
  omega

theorem number_bounds : 0 ≤ day.number ∧ day.number < 146097 := by
  obtain ⟨century, span, year, dayOfYear, centuries, spans, years, days, leapDay⟩ := day
  simp only [number]
  omega

theorem yearOfCycle_bounds : 0 ≤ day.yearOfCycle ∧ day.yearOfCycle ≤ 399 := by
  obtain ⟨century, span, year, dayOfYear, centuries, spans, years, days, leapDay⟩ := day
  simp only [yearOfCycle]
  omega

theorem month_eq : (day.month : Int) = (5 * day.dayOfYear + 2) / 153 := by
  have days := day.days
  simp only [month]
  omega

theorem month_le : day.month ≤ 11 := by
  have days := day.days
  have number := day.month_eq
  omega

theorem dayOfMonth_pos : 1 ≤ day.dayOfMonth := by
  have days := day.days
  have number := day.month_eq
  simp only [dayOfMonth, daysBefore]
  omega

def civilYear (cycle : Int) (day : CycleDay) : Int :=
  cycle * 400 + day.yearOfCycle + if day.month < 10 then 0 else 1

def civilMonth (day : CycleDay) : Nat := if day.month < 10 then day.month + 3 else day.month - 9

theorem isLeap_next (cycle : Int) (last : day.dayOfYear = 365) :
    isLeap (cycle * 400 + day.yearOfCycle + 1) = true := by
  obtain ⟨century, span, year, dayOfYear, centuries, spans, years, days, leapDay⟩ := day
  obtain ⟨fourth, whole⟩ := leapDay last
  rw [isLeap_remainders]
  simp only [yearOfCycle]
  omega

theorem civilMonth_bounds : 1 ≤ day.civilMonth ∧ day.civilMonth ≤ 12 := by
  have last := day.month_le
  rw [civilMonth]
  split <;> omega

theorem daysIn_february (year : Int) : daysIn year 2 = if isLeap year then 29 else 28 := rfl

theorem daysIn_march (year : Int) {month : Nat} (before : month ≤ 10) :
    (daysIn year (if month < 10 then month + 3 else month - 9) : Int) =
      daysBefore (month + 1) - daysBefore month := by
  interval_cases month <;> rfl

theorem dayOfMonth_le (cycle : Int) :
    day.dayOfMonth ≤ daysIn (day.civilYear cycle) day.civilMonth := by
  have days := day.days
  have number := day.month_eq
  rcases Nat.lt_or_ge day.month 11 with before | final
  · rw [civilMonth, daysIn_march _ (Nat.le_of_lt_succ before)]
    unfold dayOfMonth daysBefore
    omega
  · have last : day.month = 11 := Nat.le_antisymm day.month_le final
    have february : day.civilMonth = 2 := by rw [civilMonth, last]; rfl
    have year : day.civilYear cycle = cycle * 400 + day.yearOfCycle + 1 := by
      rw [civilYear, last]
      rfl
    rw [february, daysIn_february, year]
    unfold dayOfMonth daysBefore
    by_cases leap : day.dayOfYear = 365
    · rw [if_pos (day.isLeap_next cycle leap)]
      omega
    · split <;> omega

end CycleDay

namespace Date

theorem ofDays_eq {days cycle : Int} {day : CycleDay}
    (same : days + 719468 = cycle * 146097 + day.number) :
    ofDays days = ⟨day.civilYear cycle, day.civilMonth, day.dayOfMonth.toNat⟩ := by
  have numbers := day.number_bounds
  have last := day.month_le
  have whole : (days + 719468) / 146097 = cycle := by omega
  have part : (days + 719468) % 146097 = day.number := by omega
  unfold ofDays
  dsimp only
  rw [whole, part, day.yearOfCycle_number, day.dayOfYear_number, ← day.month_eq]
  unfold CycleDay.civilYear CycleDay.civilMonth CycleDay.dayOfMonth
  congr 2 <;> split <;> split <;> omega

theorem daysBeforeMarch_cycle (cycle : Int) {year : Int} (low : 0 ≤ year) (high : year ≤ 399) :
    daysBeforeMarch (cycle * 400 + year) =
      cycle * 146097 + (365 * year + year / 4 - year / 100) := by
  have whole : (cycle * 400 + year) / 400 = cycle := by omega
  have part : (cycle * 400 + year) % 400 = year := by omega
  rw [daysBeforeMarch, whole, part, Int.mul_comm year]

theorem exists_cycle (days : Int) :
    ∃ (cycle : Int) (day : CycleDay), days + 719468 = cycle * 146097 + day.number := by
  have low : 0 ≤ (days + 719468) % 146097 := Int.emod_nonneg _ (by decide)
  have high : (days + 719468) % 146097 < 146097 := Int.emod_lt_of_pos _ (by decide)
  obtain ⟨day, number⟩ := CycleDay.exists_number low high
  exact ⟨(days + 719468) / 146097, day, by omega⟩

theorem days_ofDays (days : Int) : (ofDays days).days = days := by
  obtain ⟨cycle, day, same⟩ := exists_cycle days
  obtain ⟨low, high⟩ := day.yearOfCycle_bounds
  have last := day.month_le
  have positive := day.dayOfMonth_pos
  have written : day.dayOfMonth = day.dayOfYear - daysBefore day.month + 1 := rfl
  have march := daysBeforeMarch_cycle cycle low high
  have ordinal := day.dayOfYear_number
  rw [ofDays_eq same, days_march]
  unfold CycleDay.civilYear CycleDay.civilMonth
  by_cases early : day.month < 10
  · have within : ¬ day.month + 3 ≤ 2 := by omega
    have month : ((day.month + 3 : Nat) : Int) - 3 = day.month := by omega
    rw [if_pos early, if_pos early, if_neg within, Int.add_zero, march, month]
    omega
  · have beyond : day.month - 9 ≤ 2 := by omega
    have month : ((day.month - 9 : Nat) : Int) + 9 = day.month := by omega
    rw [if_neg early, if_neg early, if_pos beyond, Int.add_sub_cancel, march, month]
    omega

/-- What a day is called is a date that exists. -/
theorem exists_ofDays (days : Int) : let date := ofDays days
    (1 ≤ date.month ∧ date.month ≤ 12) ∧
      1 ≤ date.day ∧ date.day ≤ daysIn date.year date.month := by
  intro date
  obtain ⟨cycle, day, same⟩ := exists_cycle days
  have positive := day.dayOfMonth_pos
  have length := day.dayOfMonth_le cycle
  rw [show date = _ from ofDays_eq same]
  constructor
  · exact day.civilMonth_bounds
  · dsimp only
    omega

end Date

end Cycles

end Sitemaps.Time
