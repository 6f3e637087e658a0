import ChatEmbed.Calendar
import Mathlib.Algebra.BigOperators.Intervals
import Mathlib.Algebra.Order.Group.Int

/-!
# The day that a date is

The date of a day is found by divisions, and by going through the lengths of the months.  Here it is
counted back: year by year from 1970, month by month from January, and day by day.

* `Calendar.yearLength` and `Calendar.monthLength` are the rules of the calendar.
* `Date.Valid` and `DateTime.Valid` say which dates and times of day there are.
* `Date.daysSinceEpoch` and `DateTime.secondsSinceEpoch` count, by sums over years and months and
  without a closed form.
* `DateTime.valid_ofSeconds` says that for every count of seconds, before or after 1970, a date and
  time is found that there is, and that has this count.
-/

set_option autoImplicit false

namespace ChatEmbed
namespace Calendar

/-! ## Years -/

/-- The number of days of a year. -/
def yearLength (year : Int) : Int :=
  if isLeap year then 366 else 365

theorem yearStart_succ (year : Int) : yearStart (year + 1) = yearStart year + yearLength year := by
  simp only [yearStart, yearLength, isLeap, Bool.and_eq_true, Bool.or_eq_true, decide_eq_true_eq]
  split <;> omega

/-- The days of so many years from a given one on. -/
def daysOfYears (first : Int) (count : Nat) : Int :=
  ∑ k ∈ Finset.range count, yearLength (first + k)

theorem daysOfYears_eq (first : Int) (count : Nat) :
    daysOfYears first count = yearStart (first + count) - yearStart first := by
  rw [daysOfYears]
  induction count with
  | zero => simp
  | succ count ih =>
    have hnext : first + ((count + 1 : Nat) : Int) = first + count + 1 := by omega
    rw [Finset.sum_range_succ, ih, hnext, yearStart_succ]
    omega

/-- The days from the start of 1970 to the start of a year, counted year by year.  Those of earlier
years are taken away. -/
def daysToYear (year : Int) : Int :=
  daysOfYears 1970 (year - 1970).toNat - daysOfYears year (1970 - year).toNat

theorem daysToYear_eq (year : Int) : daysToYear year = yearStart year - epochDay := by
  rw [daysToYear, daysOfYears_eq, daysOfYears_eq, epochDay]
  rcases Int.le_total 1970 year with h | h
  · have hlater : 1970 + ((year - 1970).toNat : Int) = year := by omega
    have hnone : (1970 - year).toNat = 0 := by omega
    rw [hlater, hnone, Int.natCast_zero, Int.add_zero]
    omega
  · have hearlier : year + ((1970 - year).toNat : Int) = 1970 := by omega
    have hnone : (year - 1970).toNat = 0 := by omega
    rw [hearlier, hnone, Int.natCast_zero, Int.add_zero]
    omega

/-- After 400 years the calendar begins again. -/
theorem yearStart_add_cycle (cycle year : Int) :
    yearStart (400 * cycle + year) = 146097 * cycle + yearStart year := by
  rw [yearStart, yearStart]
  omega

/-- In the first 400 years, the leap days before a year are too few to make up another year. -/
theorem yearStart_bounds {year : Int} (hfirst : 0 ≤ year) (hlast : year ≤ 401) :
    365 * year ≤ yearStart year ∧ yearStart year < 365 * (year + 1) := by
  rw [yearStart]
  omega

/-- **A day falls in its year**: not before its start, and before the start of the next year. -/
theorem yearStart_yearOfDay (day : Int) :
    yearStart (yearOfDay day) ≤ day ∧ day < yearStart (yearOfDay day + 1) := by
  rw [yearOfDay, Int.add_assoc, yearStart_add_cycle, yearStart_add_cycle]
  generalize hrest : day % 146097 = rest
  -- The leap days make the years longer than 365 days, so the quotient is the year or the next one.
  have hfirst : yearStart 0 = 0 := rfl
  split
  case isTrue hle =>
    have := @yearStart_bounds (rest / 365 + 1) (by omega) (by omega)
    omega
  case isFalse hlt =>
    have hne : rest / 365 ≠ 0 := fun hzero ↦ hlt (by rw [hzero, hfirst]; omega)
    have := @yearStart_bounds (rest / 365 - 1) (by omega) (by omega)
    rw [Int.sub_add_cancel]
    omega

/-! ## Months -/

/-- The number of days of a month. -/
def monthLength (year : Int) (month : Nat) : Nat :=
  if month = 2 then if isLeap year then 29 else 28
  else if month = 4 ∨ month = 6 ∨ month = 9 ∨ month = 11 then 30
  else 31

theorem monthLengths_eq (year : Int) :
    monthLengths (isLeap year) = (List.range' 1 12).map (monthLength year) := by
  cases h : isLeap year <;> simp [monthLengths, monthLength, h, List.range']

/-- The months of a year make up the year. -/
theorem sum_monthLength (year : Int) :
    ((∑ month ∈ Finset.Ico 1 13, monthLength year month : Nat) : Int) = yearLength year := by
  rw [yearLength]
  cases h : isLeap year <;> simp [Finset.sum_Ico_succ_top, monthLength, h]

/-- **Going through the months finds the one that a day falls in**, the days before it and the day
in that month making up the day. -/
theorem monthDay_spec (f : Nat → Nat) (count month day : Nat)
    (h : day < ∑ k ∈ Finset.Ico month (month + count), f k) :
    ∃ m d, monthDay ((List.range' month count).map f) month day = (m, d) ∧
      (month ≤ m ∧ m < month + count) ∧ (1 ≤ d ∧ d ≤ f m) ∧
        ∑ k ∈ Finset.Ico month m, f k + d = day + 1 := by
  induction count generalizing month day with
  | zero => simp at h
  | succ count ih =>
    rw [List.range'_succ, List.map_cons, monthDay]
    split
    case isTrue hlt => exact ⟨month, day + 1, rfl, by omega, by omega, by simp⟩
    case isFalse hle =>
      rw [Finset.sum_eq_sum_Ico_succ_bot (by omega)] at h
      have hnext : month + (count + 1) = month + 1 + count := by omega
      rw [hnext] at h ⊢
      obtain ⟨m, d, hfound, hm, hd, hsum⟩ := ih (month + 1) (day - f month) (by omega)
      refine ⟨m, d, hfound, by omega, hd, ?_⟩
      rw [Finset.sum_eq_sum_Ico_succ_bot (by omega)]
      omega

/-! ## Dates -/

/-- A date that there is in the calendar. -/
structure Date.Valid (date : Date) : Prop where
  month : 1 ≤ date.month ∧ date.month ≤ 12
  day : 1 ≤ date.day ∧ date.day ≤ monthLength date.year date.month

/-- The days from the start of 1970 to a date: those of the years before it, of the months before it
in its year, and of the days before it in its month. -/
def Date.daysSinceEpoch (date : Date) : Int :=
  daysToYear date.year + (∑ month ∈ Finset.Ico 1 date.month, monthLength date.year month : Nat) +
    (date.day - 1)

/-- **The date of a day is one that there is**, and counting back from it gives the day. -/
theorem Date.valid_ofDay (day : Int) :
    (Date.ofDay day).Valid ∧ (Date.ofDay day).daysSinceEpoch = day - epochDay := by
  obtain ⟨hstart, hnext⟩ := yearStart_yearOfDay day
  rw [ofDay]
  dsimp only
  generalize yearOfDay day = year at hstart hnext
  rw [yearStart_succ, ← sum_monthLength] at hnext
  have hday : (day - yearStart year).toNat < ∑ month ∈ Finset.Ico 1 13, monthLength year month := by
    omega
  obtain ⟨m, d, hfound, hm, hd, hsum⟩ := monthDay_spec (monthLength year) 12 1 _ hday
  rw [monthLengths_eq, hfound]
  refine ⟨⟨by dsimp only; omega, hd⟩, ?_⟩
  rw [daysSinceEpoch, daysToYear_eq]
  dsimp only
  omega

/-! ## Times of day -/

/-- A date and a time of day that there are. -/
structure DateTime.Valid (time : DateTime) : Prop where
  date : time.date.Valid
  hour : time.hour < 24
  minute : time.minute < 60
  second : time.second < 60

/-- The seconds from the start of 1970. -/
def DateTime.secondsSinceEpoch (time : DateTime) : Int :=
  86400 * time.date.daysSinceEpoch + 3600 * time.hour + 60 * time.minute + time.second

/-- **For every count of seconds there is a date and time**, and it has this count. -/
theorem DateTime.valid_ofSeconds (seconds : Int) :
    (DateTime.ofSeconds seconds).Valid ∧
      (DateTime.ofSeconds seconds).secondsSinceEpoch = seconds := by
  obtain ⟨hdate, hdays⟩ := Date.valid_ofDay (epochDay + seconds / 86400)
  rw [ofSeconds]
  have htime : (seconds % 86400).toNat < 86400 := by omega
  refine ⟨⟨hdate, ?hour, ?minute, ?second⟩, ?count⟩
  case hour => exact Nat.div_lt_of_lt_mul htime
  case minute => exact Nat.mod_lt _ (by decide)
  case second => exact Nat.mod_lt _ (by decide)
  case count =>
    rw [secondsSinceEpoch, hdays]
    dsimp only
    omega

end Calendar
end ChatEmbed
