/-!
# Years of the Gregorian calendar

Days are numbered from 1 January 1970, which is day 0, and the calendar is
extended to all years, the year 0 among them.  A year is the stretch of days
from its first day up to the first day of the next; every day lies in exactly
one year, and that is the year computed for it.
-/

namespace Timetable.Calendar

set_option autoImplicit false

/-! ## Where a year begins -/

/-- Whether a year has a 29 February. -/
def isLeap (year : Int) : Bool :=
  year % 4 = 0 && (year % 100 ≠ 0 || year % 400 = 0)

/-- The number of days of a year. -/
def yearLength (year : Int) : Nat := if isLeap year then 366 else 365

/-- The number of 1 January of a year. -/
def yearStart (year : Int) : Int :=
  365 * (year - 1) + (year - 1) / 4 - (year - 1) / 100 + (year - 1) / 400 - 719162

/-- The next year begins when this one has run through its days. -/
theorem yearStart_succ (year : Int) :
    yearStart (year + 1) = yearStart year + yearLength year := by
  -- Each of the three quotients gains one in the years that its period divides.
  have in_fours : year / 4 = (year - 1) / 4 + if year % 4 = 0 then 1 else 0 := by split <;> omega
  have in_hundreds : year / 100 = (year - 1) / 100 + if year % 100 = 0 then 1 else 0 := by
    split <;> omega
  have in_four_hundreds : year / 400 = (year - 1) / 400 + if year % 400 = 0 then 1 else 0 := by
    split <;> omega
  simp only [yearStart, Int.add_sub_cancel, in_fours, in_hundreds, in_four_hundreds, yearLength,
    isLeap]
  clear in_fours in_hundreds in_four_hundreds
  by_cases four : year % 4 = 0 <;> by_cases hundred : year % 100 = 0 <;>
    by_cases four_hundred : year % 400 = 0 <;>
    simp only [four, hundred, four_hundred, decide_true, decide_false, ne_eq, not_true_eq_false,
      not_false_eq_true, Bool.true_and, Bool.false_and, Bool.or_true, Bool.or_false,
      Bool.false_eq_true, if_true, if_false] <;>
    omega

/-- Later years begin later. -/
theorem yearStart_lt_yearStart {early late : Int} (before : early < late) :
    yearStart early < yearStart late := by
  simp only [yearStart]
  omega

/-- Years begin in their order. -/
theorem yearStart_le_yearStart {early late : Int} (order : early ≤ late) :
    yearStart early ≤ yearStart late := by
  rcases Int.lt_or_eq_of_le order with before | rfl
  · exact Int.le_of_lt (yearStart_lt_yearStart before)
  · exact Int.le_refl _

/-! ## The year of a day -/

/-- The year that a day lies in or the one after it: the calendar repeats every
400 years, which are 146097 days, and within a cycle the days are divided by the
mean length of a year. -/
def yearEstimate (day : Int) : Int :=
  let cycle := (day + 719162) / 146097
  let within := (day + 719162) % 146097
  400 * cycle + 400 * (within + 2) / 146097 + 1

/-- The year that a day lies in. -/
def yearOf (day : Int) : Int :=
  if day < yearStart (yearEstimate day) then yearEstimate day - 1 else yearEstimate day

/-- The year of a day has begun by then. -/
theorem yearStart_yearOf_le (day : Int) : yearStart (yearOf day) ≤ day := by
  unfold yearOf
  split
  · simp only [yearStart, yearEstimate] at *
    omega
  · omega

/-- The year after the year of a day has not begun by then. -/
theorem lt_yearStart_yearOf_succ (day : Int) : day < yearStart (yearOf day + 1) := by
  unfold yearOf
  split
  · rename_i ahead
    rw [Int.sub_add_cancel]
    exact ahead
  · simp only [yearStart, yearEstimate] at *
    omega

/-- A day lies in the one year that has begun while the next has not. -/
theorem yearOf_eq_iff (day year : Int) :
    yearOf day = year ↔ yearStart year ≤ day ∧ day < yearStart (year + 1) := by
  constructor
  · rintro rfl
    exact ⟨yearStart_yearOf_le day, lt_yearStart_yearOf_succ day⟩
  · rintro ⟨begun, not_over⟩
    have own_begun := yearStart_yearOf_le day
    have own_not_over := lt_yearStart_yearOf_succ day
    rcases Int.lt_trichotomy (yearOf day) year with earlier | same | later
    · have := yearStart_le_yearStart (show yearOf day + 1 ≤ year by omega)
      omega
    · exact same
    · have := yearStart_le_yearStart (show year + 1 ≤ yearOf day by omega)
      omega

/-- A day lies in a year up to `year` exactly when it comes before the next year. -/
theorem yearOf_le_iff (day year : Int) : yearOf day ≤ year ↔ day < yearStart (year + 1) := by
  constructor
  · intro early
    have := lt_yearStart_yearOf_succ day
    have := yearStart_le_yearStart (show yearOf day + 1 ≤ year + 1 by omega)
    omega
  · intro before
    apply Int.not_lt.mp
    intro late
    have := yearStart_yearOf_le day
    have := yearStart_le_yearStart (show year + 1 ≤ yearOf day by omega)
    omega

end Timetable.Calendar
