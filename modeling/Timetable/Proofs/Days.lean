import Timetable.Date

/-!
# Days of a month

A date has one place in the calendar: when its number is that of a day of a
month, it is shown as that day (`Date.calendarDay_eq`).  So the days from a date
up to the end of its month are shown one after the other, in the same year and
month, and the next month begins behind the last of them.
-/

namespace Timetable

set_option autoImplicit false

namespace Calendar

/-! ## Places in consecutive stretches -/

/-- A position given by a stretch and a distance within it is placed there. -/
theorem placeFrom_extent_take {lengths : List Nat} {stretch distance : Nat} (passed : Nat)
    (within : distance < lengths.getD stretch 0) :
    placeFrom passed lengths (extent (lengths.take stretch) + distance) =
      (passed + stretch, distance) := by
  induction lengths generalizing passed stretch with
  | nil => simp at within
  | cons length others ih =>
    cases stretch with
    | zero =>
      have inside : distance < length := within
      simp [placeFrom, inside]
    | succ stretch =>
      have behind : ¬ extent ((length :: others).take (stretch + 1)) + distance < length := by
        simp only [List.take_succ_cons, extent_cons]
        omega
      rw [placeFrom, if_neg behind, List.take_succ_cons, extent_cons, Nat.add_assoc,
        Nat.add_sub_cancel_left, ih (passed + 1) within]
      ext
      · show passed + 1 + stretch = passed + (stretch + 1)
        omega
      · rfl

theorem place_extent_take {lengths : List Nat} {stretch distance : Nat}
    (within : distance < lengths.getD stretch 0) :
    place lengths (extent (lengths.take stretch) + distance) = (stretch, distance) := by
  rw [place, placeFrom_extent_take 0 within, Nat.zero_add]

theorem extent_append (lengths others : List Nat) :
    extent (lengths ++ others) = extent lengths + extent others := by
  induction lengths with
  | nil => exact (Nat.zero_add _).symm
  | cons length lengths ih => rw [List.cons_append, extent_cons, extent_cons, ih, Nat.add_assoc]

/-- One stretch more is passed. -/
theorem extent_take_succ (lengths : List Nat) (stretch : Nat) :
    extent (lengths.take (stretch + 1)) =
      extent (lengths.take stretch) + lengths.getD stretch 0 := by
  rw [List.take_add_one, extent_append, List.getD_eq_getElem?_getD]
  cases lengths[stretch]? <;> simp

/-- A stretch ends within all of them. -/
theorem extent_take_le_extent (lengths : List Nat) (stretch : Nat) :
    extent (lengths.take stretch) ≤ extent lengths := by
  have whole := congrArg extent (List.take_append_drop stretch lengths)
  rw [extent_append] at whole
  omega

/-! ## Days of a month -/

/-- The month after a month begins behind its days. -/
theorem monthStart_succ (year : Int) {month : Nat} (from_january : 1 ≤ month) :
    monthStart year (month + 1) = monthStart year month + monthLength year month := by
  obtain ⟨passed, rfl⟩ : ∃ passed, month = passed + 1 := ⟨month - 1, by omega⟩
  have longer := extent_take_succ (monthLengths (isLeap year)) passed
  simp only [monthStart, monthLength, Nat.add_sub_cancel, Nat.succ_ne_zero, if_false, longer]
  omega

/-- Every month has four weeks. -/
theorem four_weeks_le_monthLength (year : Int) {month : Nat} (from_january : 1 ≤ month)
    (to_december : month ≤ 12) : 28 ≤ monthLength year month := by
  have all : ∀ leap, ∀ passed < 12, 28 ≤ (monthLengths leap).getD passed 0 := by decide
  rw [monthLength, if_neg (by omega)]
  exact all _ _ (by omega)

/-- The days of a month are days of its year. -/
theorem yearOf_monthStart_add {year : Int} {month passed : Nat}
    (within : passed < monthLength year month) :
    yearOf (monthStart year month + passed) = year := by
  have from_january : month ≠ 0 := by
    rintro rfl
    simp [monthLength] at within
  have next := monthStart_succ year (Nat.one_le_iff_ne_zero.mpr from_january)
  have in_year := extent_take_le_extent (monthLengths (isLeap year)) month
  rw [extent_monthLengths] at in_year
  rw [yearOf_eq_iff, yearStart_succ]
  simp only [monthStart, Nat.add_sub_cancel] at *
  omega

end Calendar

namespace Date

open Calendar

/-- **A date is shown as the day of the month that has its number.** -/
theorem calendarDay_eq {date : Date} {year : Int} {month passed : Nat}
    (within : passed < monthLength year month)
    (number : date.number = monthStart year month + passed) :
    date.calendarDay = { year, month, day := passed + 1 } := by
  have same_year : date.year = year := by
    rw [Date.year, number]
    exact yearOf_monthStart_add within
  have from_january : month ≠ 0 := by
    rintro rfl
    simp [monthLength] at within
  rw [monthLength, if_neg from_january] at within
  have position : (date.number - yearStart year).toNat =
      extent ((monthLengths (isLeap year)).take (month - 1)) + passed := by
    rw [number, monthStart]
    omega
  simp only [calendarDay, same_year, position, place_extent_take within]
  ext
  · rfl
  · show month - 1 + 1 = month
    omega
  · rfl

/-- The months of a date are passed, and the days of its month before it. -/
theorem number_eq (date : Date) :
    date.number = monthStart date.year date.month + (date.day - 1 : Nat) := by
  have here := yearStart_add_dayOfYear date
  have placed := extent_take_place (monthLengths (isLeap date.year)) date.dayOfYear
  show date.number = yearStart date.year +
    (extent ((monthLengths (isLeap date.year)).take (place _ date.dayOfYear).1) : Nat) +
      ((place _ date.dayOfYear).2 : Nat)
  omega

theorem one_le_month (date : Date) : 1 ≤ date.month := Nat.le_add_left 1 _

theorem one_le_day (date : Date) : 1 ≤ date.day := Nat.le_add_left 1 _

/-- A month has the day that a date shows. -/
theorem day_le (date : Date) : date.day ≤ monthLength date.year date.month := by
  have placed := extent_take_place (monthLengths (isLeap date.year)) date.dayOfYear
  have within := (place_lt date.dayOfYear_lt).2
  have longer := extent_take_succ (monthLengths (isLeap date.year))
    (place (monthLengths (isLeap date.year)) date.dayOfYear).1
  show (place _ date.dayOfYear).2 + 1 ≤
    (monthLengths (isLeap date.year)).getD (place _ date.dayOfYear).1 0
  omega

/-- The days that follow a date in its month are shown one after the other. -/
theorem calendarDay_later (date : Date) {passed : Nat}
    (within : date.day + passed ≤ monthLength date.year date.month) :
    (date.later passed).calendarDay = { date.calendarDay with day := date.day + passed } := by
  have here := date.number_eq
  have first := date.one_le_day
  have shown : (date.later passed).calendarDay =
      { year := date.year, month := date.month, day := date.day - 1 + passed + 1 } :=
    calendarDay_eq (by omega) (by simp only [later]; omega)
  rw [shown, show date.day - 1 + passed + 1 = date.day + passed by omega]
  rfl

/-- The next month begins behind the days that follow a date in its month. -/
theorem number_nextMonth (date : Date) :
    date.nextMonth.number =
      date.number + (monthLength date.year date.month - date.day : Nat) + 1 := by
  have here := date.number_eq
  have first := date.one_le_day
  have last := date.day_le
  show monthStart date.year (date.month + 1) = _
  rw [monthStart_succ _ date.one_le_month]
  omega

/-- A date from another on is so many days later. -/
theorem exists_eq_later {early late : Date} (order : early.number ≤ late.number) :
    ∃ passed : Nat, late = early.later passed ∧ late.number = early.number + passed := by
  refine ⟨(late.number - early.number).toNat, ?_, by omega⟩
  ext
  simp only [later]
  omega

/-- The days before the next month begins are in the same month. -/
theorem month_eq_of_lt_nextMonth {early late : Date} (order : early.number ≤ late.number)
    (before : late.number < early.nextMonth.number) : late.month = early.month := by
  obtain ⟨passed, rfl, number⟩ := exists_eq_later order
  have last := early.day_le
  rw [number_nextMonth] at before
  rw [Date.month, calendarDay_later early (by omega)]
  rfl

/-- The day of the week goes on with the days, Monday after Sunday. -/
theorem weekday_later_succ (date : Date) (passed : Nat) :
    (date.later (passed + 1)).weekday = (date.later passed).weekday % 7 + 1 := by
  simp only [weekday, later]
  omega

theorem weekday_later_one (date : Date) : (date.later 1).weekday = date.weekday % 7 + 1 := by
  simp only [weekday, later]
  omega

end Date

end Timetable
