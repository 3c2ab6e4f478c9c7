import Timetable.Text.Decimal
import Timetable.WallTime

/-!
# Written clock readings

A reading is written date first, with a separator before the time of day.  Years
of up to four digits take four; any other year takes a sign and at least four.
A fraction of a second is written with three, six or nine digits, the fewest
that are exact, and not at all where it is zero.  A leap second is second 60.
-/

namespace Timetable.WallTime

open Text

set_option autoImplicit false

/-- A year with four digits, or with a sign where four digits do not show it. -/
def writtenYear (year : Int) : List Char :=
  if 0 ≤ year ∧ year ≤ 9999 then padded 4 year.toNat
  else (if year < 0 then '-' else '+') :: padded 4 year.natAbs

/-- A fraction of a second in nanoseconds, with the point in front. -/
def writtenFraction (nanos : Nat) : List Char :=
  if nanos = 0 then []
  else if nanos % 1000000 = 0 then '.' :: padded 3 (nanos / 1000000)
  else if nanos % 1000 = 0 then '.' :: padded 6 (nanos / 1000)
  else '.' :: padded 9 nanos

/-- A date as year, month and day. -/
def writtenDate (date : Date) : List Char :=
  writtenYear date.year ++ '-' :: padded 2 date.month ++ '-' :: padded 2 date.day

/-- The time of day as hour, minute, second and fraction. -/
def writtenClock (time : WallTime) : List Char :=
  let leap := 1000000000 ≤ time.nanos
  padded 2 time.hour ++ ':' :: padded 2 time.minute ++
    ':' :: padded 2 (if leap then time.second + 1 else time.second) ++
    writtenFraction (if leap then time.nanos - 1000000000 else time.nanos)

/-- A reading with `separator` between the date and the time of day. -/
def writtenWith (separator : Char) (time : WallTime) : String :=
  String.ofList (writtenDate time.date ++ separator :: writtenClock time)

/-- A reading as it stands in messages, with a space before the time of day. -/
def written (time : WallTime) : String := time.writtenWith ' '

end Timetable.WallTime
