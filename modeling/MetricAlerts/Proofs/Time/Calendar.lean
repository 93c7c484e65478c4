import Mathlib.Tactic.IntervalCases
import MetricAlerts.Timestamp

/-! The calendar: every day has a date of the Gregorian calendar, and is the day of that date
(`exists_date`). Years are counted from March here, so that a leap day is the last of its year. -/

namespace MetricAlerts.Timestamp

/-- The days before a year that begins in March. -/
def yearStart (y : Int) : Int := 365 * y + y / 4 - y / 100 + y / 400

theorem yearStart_lt {y z : Int} (h : y < z) : yearStart y + 364 ≤ yearStart z := by
  rw [yearStart, yearStart]
  omega

/-- A day of a year that begins in March. The year has a day more if the next January and February
are those of a leap year. -/
structure YearDay where
  year : Int
  day : Nat
  day_le : day ≤ 365
  leap : day = 365 → isLeapYear (year + 1) = true

namespace YearDay

variable (d : YearDay)

/-- The days from the start of 1970. -/
def days : Int := yearStart d.year + d.day - 719468

/-- The months since March. -/
def monthFromMarch : Nat := (5 * d.day + 2) / 153

def month : Nat := if d.monthFromMarch < 10 then d.monthFromMarch + 3 else d.monthFromMarch - 9

def dayOfMonth : Nat := d.day - (153 * d.monthFromMarch + 2) / 5 + 1

/-- The year that begins in January. -/
def calendarYear : Int := if d.month ≤ 2 then d.year + 1 else d.year

theorem monthFromMarch_le : d.monthFromMarch ≤ 11 := by
  have := d.day_le
  rw [monthFromMarch]
  omega

end YearDay

theorem isLeapYear_iff (year : Int) :
    isLeapYear year = true ↔ year % 4 = 0 ∧ (year % 100 ≠ 0 ∨ year % 400 = 0) := by
  simp [isLeapYear]

/-- A day of 400 years lies in a century, in four years of it, in a year of these and on a day of
that. -/
theorem exists_parts {n : Nat} (h : n < 146097) :
    ∃ c q i d, n = 36524 * c + 1461 * q + 365 * i + d ∧ c ≤ 3 ∧ q ≤ 24 ∧ i ≤ 3 ∧ d ≤ 365 ∧
      (d = 365 → i = 3 ∧ (q < 24 ∨ c = 3)) := by
  let c := min (n / 36524) 3
  let q := (n - 36524 * c) / 1461
  let i := min ((n - 36524 * c - 1461 * q) / 365) 3
  exact ⟨c, q, i, n - 36524 * c - 1461 * q - 365 * i, by omega⟩

/-- The formula by which the year is found from the day in an era of 400 years. A leap day takes the
place of the day that is missing in years of 365 days. -/
theorem yearOfEra_eq {n c q i d : Nat} (hn : n = 36524 * c + 1461 * q + 365 * i + d) (hc : c ≤ 3)
    (hq : q ≤ 24) (hi : i ≤ 3) (hd : d ≤ 365) (last : d = 365 → i = 3 ∧ (q < 24 ∨ c = 3)) :
    (n - n / 1460 + n / 36524 - n / 146096) / 365 = 100 * c + 4 * q + i := by
  by_cases isLast : n = 146096
  · obtain ⟨rfl, rfl, rfl, rfl⟩ : c = 3 ∧ q = 24 ∧ i = 3 ∧ d = 365 := by omega
    subst isLast
    rfl
  · have hCentury : n / 36524 = c := by omega
    have hEra : n / 146096 = 0 := by omega
    by_cases carries : 1460 ≤ 24 * c + q + 365 * i + d
    · have hGroup : n / 1460 = 25 * c + q + 1 := by omega
      omega
    · have hGroup : n / 1460 = 25 * c + q := by omega
      omega

/-- The days before a year of an era of 400 years, which have 146097 days. -/
theorem yearStart_era (era : Int) {c q i : Nat} (hc : c ≤ 3) (hq : q ≤ 24) (hi : i ≤ 3) :
    yearStart (era * 400 + (100 * c + 4 * q + i : Nat)) =
      era * 146097 + (36524 * c + 1461 * q + 365 * i : Nat) := by
  have hFour : (era * 400 + (100 * c + 4 * q + i : Nat)) / 4 = era * 100 + 25 * c + q := by omega
  have hHundred : (era * 400 + (100 * c + 4 * q + i : Nat)) / 100 = era * 4 + c := by omega
  have hEra : (era * 400 + (100 * c + 4 * q + i : Nat)) / 400 = era := by omega
  rw [yearStart, hFour, hHundred, hEra]
  omega

theorem exists_yearDay (days : Int) : ∃ d : YearDay,
    d.days = days ∧ dateOfDays days = (d.calendarYear, d.month, d.dayOfMonth) := by
  obtain ⟨era, n, less, rfl⟩ : ∃ (era : Int) (n : Nat), n < 146097 ∧
      days = era * 146097 + n - 719468 :=
    ⟨(days + 719468) / 146097, ((days + 719468) % 146097).toNat, by omega, by omega⟩
  obtain ⟨c, q, i, d, hn, hc, hq, hi, hd, last⟩ := exists_parts less
  have leap : d = 365 → isLeapYear (era * 400 + (100 * c + 4 * q + i : Nat) + 1) = true := by
    intro isLast
    rw [isLeapYear_iff]
    omega
  refine ⟨⟨era * 400 + (100 * c + 4 * q + i : Nat), d, hd, leap⟩, ?_, ?_⟩
  · have hStart := yearStart_era era hc hq hi
    simp only [YearDay.days]
    omega
  · have hEra : Int.fdiv (era * 146097 + n - 719468 + 719468) 146097 = era := by
      rw [Int.fdiv_eq_ediv_of_nonneg _ (by decide)]
      omega
    have hN : (era * 146097 + n - 719468 + 719468 - era * 146097).toNat = n := by omega
    have hFour : (100 * c + 4 * q + i) / 4 = 25 * c + q := by omega
    have hHundred : (100 * c + 4 * q + i) / 100 = c := by omega
    have hDay : n - (365 * (100 * c + 4 * q + i) + (100 * c + 4 * q + i) / 4 -
        (100 * c + 4 * q + i) / 100) = d := by
      rw [hFour, hHundred]
      omega
    simp only [dateOfDays, hEra, hN, yearOfEra_eq hn hc hq hi hd last, hDay]
    rfl

/-! Dates. -/

theorem daysOfDate_eq (year : Int) (month day : Nat) :
    daysOfDate year month day = yearStart (if month ≤ 2 then year - 1 else year) +
      (153 * ((month + 9) % 12) + 2) / 5 + day - 1 - 719468 := by
  rw [daysOfDate]
  generalize (if month ≤ 2 then year - 1 else year) = y
  obtain ⟨era, r, less, rfl⟩ : ∃ (era : Int) (r : Nat), r < 400 ∧ y = era * 400 + r :=
    ⟨y / 400, (y % 400).toNat, by omega, by omega⟩
  have hEra : (era * 400 + r) / 400 = era := by omega
  have hFour : (era * 400 + r) / 4 = era * 100 + (r : Int) / 4 := by omega
  have hHundred : (era * 400 + r) / 100 = era * 4 + (r : Int) / 100 := by omega
  have hRest : era * 400 + r - era * 400 = (r : Int) := by omega
  simp only [Int.fdiv_eq_ediv_of_nonneg _ (by decide : (0 : Int) ≤ 400), yearStart, hEra, hFour,
    hHundred, hRest]
  omega

namespace YearDay

variable (d : YearDay)

theorem month_le : 1 ≤ d.month ∧ d.month ≤ 12 := by
  have := d.monthFromMarch_le
  rw [month]
  split <;> omega

theorem monthFromMarch_eq : (d.month + 9) % 12 = d.monthFromMarch := by
  have := d.monthFromMarch_le
  rw [month]
  split <;> omega

theorem firstOfMonth_le : (153 * d.monthFromMarch + 2) / 5 ≤ d.day := by
  rw [monthFromMarch]
  omega

theorem daysOfDate_eq : daysOfDate d.calendarYear d.month d.dayOfMonth = d.days := by
  have hYear : (if d.month ≤ 2 then d.calendarYear - 1 else d.calendarYear) = d.year := by
    rw [calendarYear]
    split <;> omega
  have hMonth : ((d.month : Int) + 9) % 12 = d.monthFromMarch := by
    exact_mod_cast d.monthFromMarch_eq
  have := d.firstOfMonth_le
  rw [Timestamp.daysOfDate_eq, hYear, hMonth, days, dayOfMonth]
  omega

/-- February is the last month, and as long as the year has it. -/
theorem dayOfMonth_le : 1 ≤ d.dayOfMonth ∧ d.dayOfMonth ≤ daysInMonth d.calendarYear d.month := by
  refine ⟨Nat.le_add_left .., ?_⟩
  have hDay := d.day_le
  have hMonths := d.monthFromMarch_le
  have hMonth : (5 * d.day + 2) / 153 = d.monthFromMarch := rfl
  have hFebruary : d.day - 337 + 1 ≤ if isLeapYear (d.year + 1) = true then 29 else 28 := by
    by_cases isLast : d.day = 365
    · rw [if_pos (d.leap isLast), isLast]
    · split <;> omega
  rw [dayOfMonth, calendarYear, month]
  interval_cases d.monthFromMarch <;> simp [daysInMonth] <;> omega

theorem month_le_two_iff : d.month ≤ 2 ↔ 306 ≤ d.day := by
  have := d.monthFromMarch_le
  have hMonth : (5 * d.day + 2) / 153 = d.monthFromMarch := rfl
  rw [month]
  split <;> omega

theorem le_calendarYear {year : Int} (h : daysOfDate year 1 1 ≤ d.days) :
    year ≤ d.calendarYear := by
  have hFirst : daysOfDate year 1 1 = yearStart (year - 1) + 306 - 719468 := by
    rw [Timestamp.daysOfDate_eq]
    norm_num
  have hDay := d.day_le
  have hBefore (earlier : d.year < year - 1) := yearStart_lt earlier
  have hSame (same : d.year = year - 1) : yearStart d.year = yearStart (year - 1) := by rw [same]
  have hMonth := d.month_le_two_iff
  rw [hFirst, days] at h
  rw [calendarYear]
  split <;> omega

theorem calendarYear_le {year : Int} (h : d.days ≤ daysOfDate year 12 31) :
    d.calendarYear ≤ year := by
  have hLast : daysOfDate year 12 31 = yearStart year + 305 - 719468 := by
    rw [Timestamp.daysOfDate_eq]
    norm_num
    omega
  have hAfter (later : year < d.year) := yearStart_lt later
  have hSame (same : d.year = year) : yearStart d.year = yearStart year := by rw [same]
  have hMonth := d.month_le_two_iff
  rw [hLast, days] at h
  rw [calendarYear]
  split <;> omega

end YearDay

theorem daysInMonth_le (year : Int) (month : Nat) : daysInMonth year month ≤ 31 := by
  rw [daysInMonth]
  repeat' split
  all_goals decide

/-- A date of the calendar. -/
structure IsDate (year : Int) (month day : Nat) : Prop where
  isMonth : 1 ≤ month ∧ month ≤ 12
  isDay : 1 ≤ day ∧ day ≤ daysInMonth year month

/-- Every day has a date and is the day of that date, which lies in a year if the day does not lie
before or after it. -/
theorem exists_date (days : Int) : ∃ year month day, dateOfDays days = (year, month, day) ∧
    IsDate year month day ∧ daysOfDate year month day = days ∧
    (∀ first, daysOfDate first 1 1 ≤ days → first ≤ year) ∧
    ∀ last, days ≤ daysOfDate last 12 31 → year ≤ last := by
  obtain ⟨d, rfl, hDate⟩ := exists_yearDay days
  exact ⟨_, _, _, hDate, ⟨d.month_le, d.dayOfMonth_le⟩, d.daysOfDate_eq,
    fun _ => d.le_calendarYear, fun _ => d.calendarYear_le⟩

end MetricAlerts.Timestamp
