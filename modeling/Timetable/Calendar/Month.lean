import Timetable.Calendar.Year

/-!
# Months of the Gregorian calendar

A year is cut into twelve stretches of days.  A day of the year, counted from
zero, is placed by walking along the stretches: it lies in the first that it
does not pass, at the distance that is left.
-/

namespace Timetable.Calendar

set_option autoImplicit false

/-! ## Consecutive stretches -/

/-- The days of consecutive stretches together. -/
def extent : List Nat → Nat
  | [] => 0
  | length :: others => length + extent others

@[simp] theorem extent_nil : extent [] = 0 := rfl

@[simp] theorem extent_cons (length : Nat) (others : List Nat) :
    extent (length :: others) = length + extent others := rfl

/-- The stretch that a position lies in, counted on from `passed`, and the distance from its
beginning, for consecutive stretches of the lengths given. -/
def placeFrom (passed : Nat) : List Nat → Nat → Nat × Nat
  | [], position => (passed, position)
  | length :: others, position =>
    if position < length then (passed, position)
    else placeFrom (passed + 1) others (position - length)

/-- The stretch that a position lies in, counted from zero, and the distance from its beginning. -/
def place (lengths : List Nat) (position : Nat) : Nat × Nat := placeFrom 0 lengths position

/-- The stretches passed and the distance make up the position. -/
theorem extent_take_placeFrom (passed : Nat) (lengths : List Nat) (position : Nat) :
    passed ≤ (placeFrom passed lengths position).1 ∧
      extent (lengths.take ((placeFrom passed lengths position).1 - passed)) +
        (placeFrom passed lengths position).2 = position := by
  induction lengths generalizing passed position with
  | nil => simp [placeFrom]
  | cons length others ih =>
    simp only [placeFrom]
    split
    · simp
    · have ⟨order, total⟩ := ih (passed + 1) (position - length)
      refine ⟨by omega, ?_⟩
      rw [show (placeFrom (passed + 1) others (position - length)).1 - passed =
        (placeFrom (passed + 1) others (position - length)).1 - (passed + 1) + 1 by omega]
      simp only [List.take_succ_cons, extent_cons]
      omega

/-- A position within the stretches is placed in one of them, before its end. -/
theorem placeFrom_lt {passed : Nat} {lengths : List Nat} {position : Nat}
    (within : position < extent lengths) :
    (placeFrom passed lengths position).1 < passed + lengths.length ∧
      position < extent (lengths.take ((placeFrom passed lengths position).1 + 1 - passed)) := by
  induction lengths generalizing passed position with
  | nil => simp at within
  | cons length others ih =>
    simp only [placeFrom]
    split
    · simpa
    · simp only [extent_cons] at within
      have ⟨order, total⟩ := @ih (passed + 1) (position - length) (by omega)
      have := (extent_take_placeFrom (passed + 1) others (position - length)).1
      refine ⟨by simp only [List.length_cons]; omega, ?_⟩
      rw [show (placeFrom (passed + 1) others (position - length)).1 + 1 - passed =
        (placeFrom (passed + 1) others (position - length)).1 + 1 - (passed + 1) + 1 by omega]
      simp only [List.take_succ_cons, extent_cons]
      omega

/-- The stretches before the place and the distance make up the position. -/
theorem extent_take_place (lengths : List Nat) (position : Nat) :
    extent (lengths.take (place lengths position).1) + (place lengths position).2 = position := by
  simpa [place] using (extent_take_placeFrom 0 lengths position).2

/-- A position within the stretches is placed in one of them, before its end. -/
theorem place_lt {lengths : List Nat} {position : Nat} (within : position < extent lengths) :
    (place lengths position).1 < lengths.length ∧
      position < extent (lengths.take ((place lengths position).1 + 1)) := by
  simpa [place] using @placeFrom_lt 0 lengths position within

/-! ## The twelve months -/

/-- The numbers of days of the months, in a leap year or in another. -/
def monthLengths : Bool → List Nat
  | true => [31, 29, 31, 30, 31, 30, 31, 31, 30, 31, 30, 31]
  | false => [31, 28, 31, 30, 31, 30, 31, 31, 30, 31, 30, 31]

/-- The months make up the year. -/
theorem extent_monthLengths (year : Int) :
    extent (monthLengths (isLeap year)) = yearLength year := by
  unfold yearLength
  cases isLeap year <;> rfl

/-- The number of days of a month; 0 where there is no such month. -/
def monthLength (year : Int) (month : Nat) : Nat :=
  if month = 0 then 0 else (monthLengths (isLeap year)).getD (month - 1) 0

/-- The number of the first day of a month; month 13 begins with the next year. -/
def monthStart (year : Int) (month : Nat) : Int :=
  yearStart year + extent ((monthLengths (isLeap year)).take (month - 1))

end Timetable.Calendar
