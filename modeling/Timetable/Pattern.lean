import Timetable.Date
import Timetable.Field.Reading
import Timetable.Year

/-!
# Patterns

A pattern is what an expression stands for: a constraint for each of the five
fields, and the year word as it was written.  A clock reading matches a pattern
by its month, day, hour and minute; the year is left to a filter, and seconds do
not count.

The two day fields are alternatives where both are limited: a day then matches
by either.  Where only one is limited, that one decides.
-/

namespace Timetable

open Text

set_option autoImplicit false

/-- What an expression stands for. -/
@[ext]
structure Pattern where
  minutes : Constraint
  hours : Constraint
  monthDays : Constraint
  months : Constraint
  weekDays : Constraint
  /-- The year word as written: a star or a numeral in a pattern that was compiled. -/
  year : String
  deriving DecidableEq

namespace Pattern

/-! ## Compiling -/

/-- The pattern that six words stand for; the year is checked before the fields. -/
def ofWords (words : List (List Char)) : Except Defect Pattern :=
  match words with
  | [minute, hour, monthDay, month, weekDay, year] => do
    let _ ← readYear year
    let minutes ← Field.readConstraint .minute minute
    let hours ← Field.readConstraint .hour hour
    let monthDays ← Field.readConstraint .monthDay monthDay
    let months ← Field.readConstraint .month month
    let weekDays ← Field.readConstraint .weekDay weekDay
    .ok { minutes, hours, monthDays, months, weekDays, year := String.ofList year }
  | other => .error (.fieldCount other.length)

/-- The pattern that an expression stands for, its words being separated by blanks. -/
def compile (expression : String) : Except Defect Pattern := ofWords (words expression.toList)

/-- The pattern of every minute. -/
def everyMinute : Pattern where
  minutes := .any
  hours := .any
  monthDays := .any
  months := .any
  weekDays := .any
  year := "*"

theorem compile_everyMinute : compile "* * * * * *" = .ok everyMinute := by rfl

/-! ## Writing -/

/-- The six words of a pattern, every limited field as the list of its numbers. -/
def writtenWords (pattern : Pattern) : List (List Char) :=
  [pattern.minutes.writtenChars, pattern.hours.writtenChars, pattern.monthDays.writtenChars,
   pattern.months.writtenChars, pattern.weekDays.writtenChars, pattern.year.toList]

/-- The canonical expression of a pattern. -/
def written (pattern : Pattern) : String := String.ofList (joined ' ' pattern.writtenWords)

/-! ## Matching -/

/-- Whether a minute of the hour matches. -/
def minuteMatches (pattern : Pattern) (minute : Nat) : Bool := pattern.minutes.allows minute

/-- Whether an hour of the day matches. -/
def hourMatches (pattern : Pattern) (hour : Nat) : Bool := pattern.hours.allows hour

/-- Whether a month matches. -/
def monthMatches (pattern : Pattern) (month : Nat) : Bool := pattern.months.allows month

/-- Whether a day of the month that is the given day of the week matches. -/
def dayMatches (pattern : Pattern) (day weekday : Nat) : Bool :=
  match pattern.monthDays, pattern.weekDays with
  | .only monthDays, .only weekDays => monthDays.contains day || weekDays.contains weekday
  | monthDays, weekDays => monthDays.allows day && weekDays.allows weekday

/-- Whether a clock reading matches. -/
def matchesAt (pattern : Pattern) (time : WallTime) : Bool :=
  pattern.monthMatches time.date.month && pattern.dayMatches time.date.day time.date.weekday &&
    pattern.hourMatches time.hour && pattern.minuteMatches time.minute

end Pattern

end Timetable
