import Timetable.Fault

/-!
# The year of an expression

The sixth word of an expression is a star, for every year, or a numeral, for one
year.  It is kept as it is written and read when it is needed.
-/

namespace Timetable

open Text

set_option autoImplicit false

/-- Every year in an expression is below this one. -/
def yearTokenLimit : Nat := 2147483648

/-- The year that a word stands for; none stands for every year. -/
def readYear (word : List Char) : Except Defect (Option Nat) :=
  if word = ['*'] then .ok none
  else if isNumeral word then
    match readNumeral? yearTokenLimit word with
    | some year => .ok (some year)
    | none => .error (.yearOutOfRange (String.ofList word))
  else .error (.badYear (String.ofList word))

end Timetable
