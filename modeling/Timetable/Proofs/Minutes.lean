import Mathlib.Data.List.Sort
import Mathlib.Order.Bounds.Basic
import Timetable.Window

/-!
# The line of minutes

Clock readings are linearly ordered, and the whole minutes among them lie on the
order like the integers: the minute of a number begins sixty seconds before the
minute of the next.

Everything that is searched lies in one stretch of whole minutes, from the first
that a clock can show up to the end of a year (`minutesThrough`).  Whatever is
said of the minutes of a window is said of a part of that list.
-/

namespace Timetable

open Calendar

set_option autoImplicit false

namespace WallTime

/-! ## The order of readings -/

/-- Clock readings in their order: by seconds, and then by nanoseconds. -/
instance : LinearOrder WallTime where
  toLE := inferInstance
  toLT := inferInstance
  toMax := inferInstance
  le_refl time := by
    rw [le_iff]
    omega
  le_trans first second third early late := by
    rw [le_iff] at *
    omega
  lt_iff_le_not_ge early late := by
    rw [lt_iff, le_iff, le_iff]
    omega
  le_antisymm first second early late := by
    rw [le_iff] at *
    exact eq_of_seconds (by omega) (by omega)
  le_total first second := by
    rw [le_iff, le_iff]
    omega
  toDecidableLE := inferInstance
  toDecidableEq := inferInstance
  toDecidableLT := inferInstance
  max_def first second := by
    show (if first < second then second else first) = _
    have order : first < second ↔ first ≤ second ∧ first ≠ second := by
      rw [lt_iff, le_iff]
      constructor
      · intro before
        refine ⟨by omega, ?_⟩
        rintro rfl
        omega
      · rintro ⟨before, other⟩
        have : ¬ (first.seconds = second.seconds ∧ first.nanos = second.nanos) := by
          rintro ⟨seconds, nanos⟩
          exact other (eq_of_seconds seconds nanos)
        omega
    by_cases same : first = second
    · subst same
      simp
    · simp only [order, ne_eq, same, not_false_eq_true, and_true]

/-! ## Whole minutes -/

/-- The whole minute with a number, minute 0 being the first of 1970. -/
def atMinute (number : Int) : WallTime := (midnight ⟨0⟩).shift (60 * number)

/-- The number of the minute that a reading lies in. -/
def minuteNumber (time : WallTime) : Int := time.seconds / 60

@[simp] theorem seconds_atMinute (number : Int) : (atMinute number).seconds = 60 * number := by
  rw [atMinute, seconds_shift]
  exact Int.zero_add _

@[simp] theorem minuteNumber_atMinute (number : Int) : (atMinute number).minuteNumber = number := by
  simp only [minuteNumber, seconds_atMinute]
  omega

/-- A reading whose seconds are a multiple of sixty is a whole minute, unless it is past the second.
-/
theorem isWholeMinute_of_seconds {time : WallTime} (sixty : time.seconds % 60 = 0)
    (no_nanos : time.nanos = 0) : time.IsWholeMinute := by
  refine ⟨?_, no_nanos⟩
  simp only [seconds] at sixty
  simp only [second]
  omega

theorem atMinute_isWholeMinute (number : Int) : (atMinute number).IsWholeMinute := by
  refine isWholeMinute_of_seconds ?_ rfl
  rw [seconds_atMinute]
  omega

/-- A whole minute is the minute of its number. -/
theorem IsWholeMinute.atMinute_minuteNumber {time : WallTime} (whole : time.IsWholeMinute) :
    atMinute time.minuteNumber = time := by
  obtain ⟨no_second, no_nanos⟩ := whole
  apply eq_of_seconds
  · simp only [second] at no_second
    rw [seconds_atMinute]
    simp only [minuteNumber, seconds]
    omega
  · exact no_nanos.symm

/-- Minutes are ordered by their numbers. -/
theorem atMinute_lt_atMinute (early late : Int) :
    atMinute early < atMinute late ↔ early < late := by
  rw [lt_iff, seconds_atMinute, seconds_atMinute]
  have same_nanos : (atMinute early).nanos = (atMinute late).nanos := rfl
  omega

theorem midnight_isWholeMinute (date : Date) : (midnight date).IsWholeMinute := ⟨rfl, rfl⟩

/-- A whole minute is not after a reading exactly when its seconds are not. -/
theorem IsWholeMinute.le_iff {minute : WallTime} (whole : minute.IsWholeMinute) (time : WallTime) :
    minute ≤ time ↔ minute.seconds ≤ time.seconds := by
  rw [WallTime.le_iff, whole.2]
  omega

/-- A reading comes before a whole minute exactly when its seconds do. -/
theorem IsWholeMinute.lt_iff {minute : WallTime} (whole : minute.IsWholeMinute) (time : WallTime) :
    time < minute ↔ time.seconds < minute.seconds := by
  rw [WallTime.lt_iff, whole.2]
  omega

/-- The seconds of a whole minute are a multiple of sixty. -/
theorem IsWholeMinute.sixty_dvd {minute : WallTime} (whole : minute.IsWholeMinute) :
    minute.seconds % 60 = 0 := by
  have := whole.1
  simp only [second] at this
  simp only [seconds]
  omega

/-! ## Years -/

/-- Later readings have no earlier year. -/
theorem year_le_year {early late : WallTime} (order : early ≤ late) : early.year ≤ late.year := by
  have within := (Date.year_le_iff late.date late.year).mp (le_refl _)
  have := early.secondOfDay_lt
  have := late.secondOfDay_lt
  apply (Date.year_le_iff _ _).mpr
  rw [WallTime.le_iff] at order
  simp only [seconds] at order
  omega

/-- The readings from the beginning of a year on are those of the year and of later years. -/
theorem midnight_ofYear_le_iff (year : Int) (minute : WallTime) :
    midnight (Date.ofYear year) ≤ minute ↔ year ≤ minute.year := by
  have before := Date.year_le_iff minute.date (year - 1)
  have := minute.secondOfDay_lt
  rw [Int.sub_add_cancel] at before
  rw [(midnight_isWholeMinute _).le_iff]
  simp only [seconds, midnight, Date.ofYear, WallTime.year] at *
  omega

/-! ## Stretches of minutes -/

/-- The whole minutes from one number on and before another, in ascending order. -/
def minutesBetween (low high : Int) : List WallTime :=
  (List.range (high - low).toNat).map fun passed : Nat => atMinute (low + passed)

theorem mem_minutesBetween (low high : Int) (time : WallTime) :
    time ∈ minutesBetween low high ↔
      time.IsWholeMinute ∧ low ≤ time.minuteNumber ∧ time.minuteNumber < high := by
  rw [minutesBetween, List.mem_map]
  constructor
  · rintro ⟨passed, member, rfl⟩
    rw [List.mem_range] at member
    rw [minuteNumber_atMinute]
    exact ⟨atMinute_isWholeMinute _, by omega, by omega⟩
  · rintro ⟨whole, above, below⟩
    refine ⟨(time.minuteNumber - low).toNat, ?_, ?_⟩
    · rw [List.mem_range]
      omega
    · rw [show low + ((time.minuteNumber - low).toNat : Int) = time.minuteNumber by omega]
      exact whole.atMinute_minuteNumber

theorem minutesBetween_ascending (low high : Int) :
    (minutesBetween low high).Pairwise (· < ·) := by
  rw [minutesBetween, List.pairwise_map]
  refine List.pairwise_lt_range.imp fun {early late} order => ?_
  rw [atMinute_lt_atMinute]
  omega

/-- Every whole minute that a clock can show up to the end of a year, in ascending order.  Nothing
is to be computed with this list: it has more than 10^11 entries. -/
@[irreducible]
def minutesThrough (year : Int) : List WallTime :=
  minutesBetween (1440 * yearStart firstYear) (1440 * yearStart (year + 1))

/-- The minutes up to the end of a year are the whole minutes in the range of the clocks that do
not lie in a later year. -/
theorem mem_minutesThrough (year : Int) (time : WallTime) :
    time ∈ minutesThrough year ↔
      time.IsWholeMinute ∧ yearStart firstYear ≤ time.date.number ∧ time.year ≤ year := by
  have := time.secondOfDay_lt
  have later_year : time.year ≤ year ↔ time.date.number < yearStart (year + 1) :=
    time.date.year_le_iff year
  rw [minutesThrough, mem_minutesBetween, later_year]
  refine and_congr_right fun _ => ?_
  simp only [minuteNumber, seconds]
  omega

theorem minutesThrough_ascending (year : Int) : (minutesThrough year).Pairwise (· < ·) := by
  rw [minutesThrough]
  exact minutesBetween_ascending _ _

end WallTime

end Timetable
