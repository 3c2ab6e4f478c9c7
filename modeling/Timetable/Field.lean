import Timetable.Text.Decimal

/-!
# The fields of an expression

Five fields of an expression resolve to sets of numbers.  What a field may say
is its domain: the least and the greatest number, and the names that stand for
some of them.  The sixth field, the year, has a rule of its own.
-/

namespace Timetable

set_option autoImplicit false

/-- A field that resolves to a set of numbers. -/
inductive Field where
  | minute
  | hour
  | monthDay
  | month
  | weekDay
  deriving DecidableEq

namespace Field

/-- The name of a field in messages. -/
def name : Field → String
  | minute => "minute"
  | hour => "hour"
  | monthDay => "month-day"
  | month => "month"
  | weekDay => "week-day"

end Field

/-- Every number in a field is below this one. -/
def numberLimit : Nat := 4294967296

/-- What a field may say. -/
structure Domain where
  /-- The field, as messages name it. -/
  field : Field
  /-- The least number allowed. -/
  least : Nat
  /-- The greatest number allowed. -/
  greatest : Nat
  /-- Names for numbers, in capitals; the first entry for a name counts. -/
  names : List (String × Nat) := []
  greatest_lt : greatest < numberLimit := by decide

namespace Domain

/-- The number that a name stands for. -/
def named? (domain : Domain) (name : String) : Option Nat := domain.names.lookup name

/-- Whether a number is allowed. -/
def Allows (domain : Domain) (n : Nat) : Prop := domain.least ≤ n ∧ n ≤ domain.greatest

instance (domain : Domain) (n : Nat) : Decidable (domain.Allows n) :=
  inferInstanceAs (Decidable (_ ∧ _))

end Domain

namespace Field

/-- The domain of a field: months and days of the week have names, and weeks begin on Monday. -/
def domain : Field → Domain
  | minute => { field := minute, least := 0, greatest := 59 }
  | hour => { field := hour, least := 0, greatest := 23 }
  | monthDay => { field := monthDay, least := 1, greatest := 31 }
  | month =>
    { field := month, least := 1, greatest := 12
      names :=
        [("JAN", 1), ("FEB", 2), ("MAR", 3), ("APR", 4), ("MAY", 5), ("JUN", 6),
         ("JUL", 7), ("AUG", 8), ("SEP", 9), ("OCT", 10), ("NOV", 11), ("DEC", 12)] }
  | weekDay =>
    { field := weekDay, least := 1, greatest := 7
      names :=
        [("MON", 1), ("TUE", 2), ("WED", 3), ("THU", 4), ("FRI", 5), ("SAT", 6), ("SUN", 7)] }

end Field

end Timetable
