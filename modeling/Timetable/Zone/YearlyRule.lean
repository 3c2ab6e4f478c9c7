import Timetable.Zone

/-!
# Transitions by rule

Many zones change their offset every year on a Sunday of a month, or on a day at
a fixed distance from one.  Such a rule stands for one transition in each year of
a span.
-/

namespace Timetable

open Calendar

set_option autoImplicit false

/-- A Sunday of a month. -/
inductive Sunday where
  /-- The first, the second and so on, counted from 1. -/
  | nth (count : Nat)
  /-- The last Sunday of the month. -/
  | last
  deriving DecidableEq

namespace Sunday

/-- The date of a Sunday of a month. -/
def date (sunday : Sunday) (year : Int) (month : Nat) : Date :=
  match sunday with
  | nth count =>
    let first : Date := ⟨monthStart year month⟩
    ⟨first.number + (7 - first.weekday) + 7 * (count - 1)⟩
  | last =>
    let final : Date := ⟨monthStart year (month + 1) - 1⟩
    ⟨final.number - final.weekday % 7⟩

end Sunday

/-- A transition that happens every year. -/
structure YearlyRule where
  month : Nat
  sunday : Sunday
  /-- Days from the Sunday to the transition. -/
  days : Int := 0
  /-- The hour of universal time. -/
  hour : Nat
  /-- The minute of the hour. -/
  minute : Nat := 0
  /-- The offset from then on. -/
  offset : Offset
  deriving DecidableEq

namespace YearlyRule

/-- The transition of a year. -/
def transition (rule : YearlyRule) (year : Int) : Transition where
  instant :=
    ((rule.sunday.date year rule.month).number + rule.days) * 86400 + 3600 * rule.hour +
      60 * rule.minute
  offset := rule.offset

end YearlyRule

namespace Zone

/-- A zone with the transitions of yearly rules added for the years from `first` to `last`. -/
def withRules (zone : Zone) (first last : Nat) (rules : List YearlyRule) : Zone :=
  let years := List.range' first (last + 1 - first)
  { zone with
    transitions := zone.transitions ++
      years.flatMap fun year => rules.map fun rule => rule.transition year }

end Zone

end Timetable
