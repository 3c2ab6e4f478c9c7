import Timetable.Date

/-!
# Clock readings

A reading of a clock is a date and a time of day, without a zone: the clock may
hang on a wall somewhere or show universal time.  The time of day is a second of
the day and nanoseconds.  Nanoseconds from a full second on belong to a leap
second, which follows the second counted and shows as second 60.

Readings are compared date first, then second, then nanoseconds.  Counted in
whole seconds since the beginning of 1970 they lie on a line: moving a clock by
an offset shifts the seconds and leaves a leap second as it is, and letting time
elapse leaves the leap second behind.
-/

namespace Timetable

open Calendar

set_option autoImplicit false

/-- A reading of a clock. -/
@[ext]
structure WallTime where
  date : Date
  /-- Whole seconds since midnight. -/
  secondOfDay : Nat
  /-- Nanoseconds past the second; a full second and more within a leap second. -/
  nanos : Nat
  secondOfDay_lt : secondOfDay < 86400 := by omega
  nanos_lt : nanos < 2000000000 := by omega
  deriving DecidableEq

namespace WallTime

/-! ## Reading the clock -/

/-- The hour, from 0 to 23. -/
def hour (time : WallTime) : Nat := time.secondOfDay / 3600

/-- The minute of the hour, from 0 to 59. -/
def minute (time : WallTime) : Nat := time.secondOfDay / 60 % 60

/-- The second of the minute, from 0 to 59. -/
def second (time : WallTime) : Nat := time.secondOfDay % 60

/-- The year of the date. -/
def year (time : WallTime) : Int := time.date.year

/-- Whole seconds since midnight of 1 January 1970 on the same clock. -/
def seconds (time : WallTime) : Int := time.date.number * 86400 + time.secondOfDay

/-- Readings with the same seconds and nanoseconds are the same. -/
theorem eq_of_seconds {a b : WallTime} (seconds : a.seconds = b.seconds)
    (nanos : a.nanos = b.nanos) : a = b := by
  have := a.secondOfDay_lt
  have := b.secondOfDay_lt
  simp only [WallTime.seconds] at seconds
  ext
  · omega
  · omega
  · exact nanos

/-- Whether the clock shows the beginning of a minute. -/
def IsWholeMinute (time : WallTime) : Prop := time.second = 0 ∧ time.nanos = 0

instance (time : WallTime) : Decidable time.IsWholeMinute :=
  inferInstanceAs (Decidable (_ ∧ _))

/-! ## Order -/

/-- A reading comes before another by its date, or else its second, or else its nanoseconds. -/
instance : LT WallTime where
  lt a b := a.date.number < b.date.number ∨ a.date.number = b.date.number ∧
    (a.secondOfDay < b.secondOfDay ∨ a.secondOfDay = b.secondOfDay ∧ a.nanos < b.nanos)

instance (a b : WallTime) : Decidable (a < b) :=
  inferInstanceAs (Decidable (_ ∨ _ ∧ (_ ∨ _ ∧ _)))

/-- A reading is not after another when the other does not come before it. -/
instance : LE WallTime where
  le a b := ¬ b < a

instance (a b : WallTime) : Decidable (a ≤ b) := inferInstanceAs (Decidable (¬ _))

instance : Max WallTime where
  max a b := if a < b then b else a

/-- On the line of seconds, the order is by seconds and then by nanoseconds. -/
theorem lt_iff (a b : WallTime) :
    a < b ↔ a.seconds < b.seconds ∨ a.seconds = b.seconds ∧ a.nanos < b.nanos := by
  have := a.secondOfDay_lt
  have := b.secondOfDay_lt
  simp only [seconds]
  show a.date.number < b.date.number ∨ a.date.number = b.date.number ∧
    (a.secondOfDay < b.secondOfDay ∨ a.secondOfDay = b.secondOfDay ∧ a.nanos < b.nanos) ↔ _
  omega

/-- On the line of seconds, the order is by seconds and then by nanoseconds. -/
theorem le_iff (a b : WallTime) :
    a ≤ b ↔ a.seconds < b.seconds ∨ a.seconds = b.seconds ∧ a.nanos ≤ b.nanos := by
  show ¬ b < a ↔ _
  rw [lt_iff]
  omega

/-! ## The range of the clocks -/

/-- The first year that a clock can show. -/
def firstYear : Int := -262143

/-- The last year that a clock can show. -/
def lastYear : Int := 262142

/-- Whether a clock can show a reading. -/
def InRange (time : WallTime) : Prop :=
  yearStart firstYear ≤ time.date.number ∧ time.date.number < yearStart (lastYear + 1)

instance (time : WallTime) : Decidable time.InRange := inferInstanceAs (Decidable (_ ∧ _))

/-- A reading is in the range of clocks when its seconds are. -/
theorem inRange_of_seconds {time : WallTime} (first : 86400 * yearStart firstYear ≤ time.seconds)
    (last : time.seconds < 86400 * yearStart (lastYear + 1)) : time.InRange := by
  have := time.secondOfDay_lt
  simp only [seconds] at first last
  constructor <;> omega

/-- A reading that a clock can show. -/
def inRange? (time : WallTime) : Option WallTime := if time.InRange then some time else none

/-- The last reading of all. -/
def latest : WallTime where
  date := ⟨yearStart (lastYear + 1) - 1⟩
  secondOfDay := 86399
  nanos := 999999999

/-! ## Setting the clock -/

/-- Midnight at the beginning of a date. -/
def midnight (date : Date) : WallTime where
  date := date
  secondOfDay := 0
  nanos := 0

/-- The beginning of a year, or the last reading of all where no clock shows that year. -/
def startOfYear (year : Int) : WallTime :=
  if firstYear ≤ year ∧ year ≤ lastYear then midnight (Date.ofYear year) else latest

/-- The beginning of an hour of a date, if the day has that hour. -/
def atHour? (date : Date) (hour : Nat) : Option WallTime :=
  if _ : hour < 24 then some { date, secondOfDay := 3600 * hour, nanos := 0 } else none

/-- The reading with another minute in its hour, if the hour has that minute. -/
def withMinute? (time : WallTime) (minute : Nat) : Option WallTime :=
  if _ : minute < 60 then
    have : time.hour < 24 := Nat.div_lt_of_lt_mul time.secondOfDay_lt
    have : time.second < 60 := Nat.mod_lt _ (by omega)
    some
      { time with
        secondOfDay := 3600 * time.hour + 60 * minute + time.second
        secondOfDay_lt := by omega }
  else none

/-- The beginning of the minute that the clock shows. -/
def floorMinute (time : WallTime) : WallTime :=
  have := time.secondOfDay_lt
  { date := time.date, secondOfDay := time.secondOfDay - time.second, nanos := 0 }

/-- The reading with the given calendar date, time of day and nanoseconds, if there is one: a
leap second is only shown within second 59 of a minute. -/
def ofCalendar? (year : Int) (month day hour minute second nanos : Nat) : Option WallTime :=
  if bound : hour < 24 ∧ minute < 60 ∧ second < 60 ∧ nanos < 2000000000 then
    if 1000000000 ≤ nanos ∧ second ≠ 59 then none
    else
      (Date.ofCalendar? year month day).bind fun date =>
        inRange? { date, secondOfDay := 3600 * hour + 60 * minute + second, nanos }
  else none

/-! ## Moving the clock -/

/-- The reading of a clock that is ahead by `span` seconds. -/
def shift (time : WallTime) (span : Int) : WallTime :=
  let second := time.secondOfDay + span
  { time with
    date := ⟨time.date.number + second / 86400⟩
    secondOfDay := (second % 86400).toNat
    secondOfDay_lt := by omega }

@[simp] theorem seconds_shift (time : WallTime) (span : Int) :
    (time.shift span).seconds = time.seconds + span := by
  simp only [seconds, shift]
  omega

@[simp] theorem nanos_shift (time : WallTime) (span : Int) :
    (time.shift span).nanos = time.nanos := rfl

/-- The reading after `span` seconds have elapsed, if the clock can show it.  Time that elapses
leaves a leap second: forwards its fraction counts as past the second counted, backwards as before
the end of the leap second. -/
def elapse? (time : WallTime) (span : Int) : Option WallTime :=
  if time.nanos < 1000000000 ∨ span = 0 then inRange? (time.shift span)
  else
    have := time.nanos_lt
    inRange?
      { time.shift (if span < 0 then span + 1 else span) with
        nanos := time.nanos - 1000000000
        nanos_lt := by omega }

/-! ## Later readings -/

/-- A clock that can show a reading after time has elapsed forwards shows that many seconds more. -/
theorem seconds_of_elapse? {time later : WallTime} {span : Int} (forwards : 0 < span)
    (elapsed : time.elapse? span = some later) : later.seconds = time.seconds + span := by
  have not_backwards : ¬ span < 0 := by omega
  simp only [elapse?, inRange?, if_neg not_backwards] at elapsed
  split at elapsed <;> rw [Option.ite_none_right_eq_some, Option.some.injEq] at elapsed <;>
    rw [← elapsed.2]
  · exact seconds_shift time span
  · simp only [seconds, shift]
    omega

theorem hour_lt (time : WallTime) : time.hour < 24 := Nat.div_lt_of_lt_mul time.secondOfDay_lt

theorem minute_lt (time : WallTime) : time.minute < 60 := Nat.mod_lt _ (by omega)

theorem second_lt (time : WallTime) : time.second < 60 := Nat.mod_lt _ (by omega)

/-- The time of day is made up of hours, minutes and seconds. -/
theorem secondOfDay_eq (time : WallTime) :
    time.secondOfDay = 3600 * time.hour + 60 * time.minute + time.second := by
  simp only [hour, minute, second]
  omega

/-- The midnight of a later date is later. -/
theorem lt_midnight {time : WallTime} {date : Date} (later : time.date.number < date.number) :
    time.seconds < (midnight date).seconds := by
  have := time.secondOfDay_lt
  simp only [seconds, midnight]
  omega

/-- The beginning of a later hour of the same date is later. -/
theorem lt_atHour? {time reached : WallTime} {hour : Nat} (later : time.hour < hour)
    (set : atHour? time.date hour = some reached) : time.seconds < reached.seconds := by
  simp only [atHour?, Option.dite_none_right_eq_some, Option.some.injEq] at set
  obtain ⟨-, rfl⟩ := set
  have := time.secondOfDay_eq
  have := time.minute_lt
  have := time.second_lt
  simp only [seconds]
  omega

/-- Setting the minute moves the clock by the difference of the minutes. -/
theorem seconds_of_withMinute? {time reached : WallTime} {minute : Nat}
    (set : time.withMinute? minute = some reached) :
    reached.seconds = time.seconds - 60 * time.minute + 60 * minute := by
  simp only [withMinute?, Option.dite_none_right_eq_some, Option.some.injEq] at set
  obtain ⟨-, rfl⟩ := set
  have := time.secondOfDay_eq
  simp only [seconds]
  omega

end WallTime

end Timetable
