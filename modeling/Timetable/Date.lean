import Timetable.Calendar.Month

/-!
# Dates

A date is a day of the Gregorian calendar, kept as its number.  Its place in the
calendar is read off the number: the year, the month and the day of the month.
In the other direction a year, a month and a day of the month give a date where
the calendar has it.
-/

namespace Timetable

open Calendar

set_option autoImplicit false

/-- A day of the Gregorian calendar. -/
@[ext]
structure Date where
  /-- Days since 1 January 1970. -/
  number : Int
  deriving DecidableEq

/-- The place of a date in the calendar. -/
@[ext]
structure CalendarDay where
  year : Int
  /-- The month, January being 1. -/
  month : Nat
  /-- The day of the month, from 1. -/
  day : Nat
  deriving DecidableEq

namespace Date

/-! ## Reading a date -/

/-- The year of a date. -/
def year (date : Date) : Int := yearOf date.number

/-- The days of the year that have passed before a date. -/
def dayOfYear (date : Date) : Nat := (date.number - yearStart date.year).toNat

/-- The year, the month and the day of the month of a date. -/
def calendarDay (date : Date) : CalendarDay :=
  let year := date.year
  let (months, days) := place (monthLengths (isLeap year)) (date.number - yearStart year).toNat
  { year, month := months + 1, day := days + 1 }

/-- The month of a date, January being 1. -/
def month (date : Date) : Nat := date.calendarDay.month

/-- The day of the month of a date, from 1. -/
def day (date : Date) : Nat := date.calendarDay.day

/-- The day of the week of a date, Monday being 1 and Sunday 7. -/
def weekday (date : Date) : Nat := ((date.number + 3) % 7).toNat + 1

/-! ## Making a date -/

/-- The date of a year, a month and a day of the month, if the calendar has it. -/
def ofCalendar? (year : Int) (month day : Nat) : Option Date :=
  if 1 ≤ day ∧ day ≤ monthLength year month then some ⟨monthStart year month + (day - 1 : Nat)⟩
  else none

/-- The first day of a year. -/
def ofYear (year : Int) : Date := ⟨yearStart year⟩

/-- The date after a number of days. -/
def later (date : Date) (days : Nat) : Date := ⟨date.number + days⟩

/-- The first day of the month after a date. -/
def nextMonth (date : Date) : Date :=
  let shown := date.calendarDay
  ⟨monthStart shown.year (shown.month + 1)⟩

/-! ## The day within the year -/

/-- The days passed in the year, added to its first day, give the date. -/
theorem yearStart_add_dayOfYear (date : Date) :
    yearStart date.year + date.dayOfYear = date.number := by
  have := yearStart_yearOf_le date.number
  simp only [dayOfYear, year]
  omega

/-- The day of the year is within the months of the year. -/
theorem dayOfYear_lt (date : Date) :
    date.dayOfYear < extent (monthLengths (isLeap date.year)) := by
  have here := yearStart_add_dayOfYear date
  have before := lt_yearStart_yearOf_succ date.number
  rw [yearStart_succ] at before
  rw [extent_monthLengths]
  simp only [year] at *
  omega

/-- The next month begins after the date. -/
theorem number_lt_nextMonth (date : Date) : date.number < date.nextMonth.number := by
  have here := yearStart_add_dayOfYear date
  have within : date.dayOfYear <
      extent ((monthLengths (isLeap date.year)).take date.month) := (place_lt date.dayOfYear_lt).2
  show date.number < monthStart date.year (date.month + 1)
  simp only [monthStart, Nat.add_sub_cancel]
  omega

/-- A date lies in a year up to `limit` exactly when it comes before the next year. -/
theorem year_le_iff (date : Date) (limit : Int) :
    date.year ≤ limit ↔ date.number < yearStart (limit + 1) := yearOf_le_iff date.number limit

end Date

end Timetable
