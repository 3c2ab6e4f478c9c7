import Timetable.Filter

/-!
# Filters by comparison

A filter may compare a candidate, or one number read off it, with a bound, and
say one thing where the comparison holds and another where it does not.
-/

namespace Timetable

set_option autoImplicit false

/-- How two values are compared. -/
inductive Comparison where
  | less
  | atMost
  | equal
  | different
  | atLeast
  | greater
  deriving DecidableEq

namespace Comparison

/-- Whether a comparison holds. -/
def holds {α : Type} [LT α] [DecidableLT α] [DecidableEq α] : Comparison → α → α → Bool
  | less, a, b => a < b
  | atMost, a, b => !decide (b < a)
  | equal, a, b => a = b
  | different, a, b => a ≠ b
  | atLeast, a, b => !decide (a < b)
  | greater, a, b => b < a

end Comparison

/-- A number that can be read off a clock. -/
inductive Feature where
  | year
  | month
  | day
  | weekday
  | hour
  | minute
  deriving DecidableEq

namespace Feature

/-- The number read off a clock. -/
def read (time : WallTime) : Feature → Int
  | year => time.year
  | month => time.date.month
  | day => time.date.day
  | weekday => time.date.weekday
  | hour => time.hour
  | minute => time.minute

/-- The number read off a clock, or its remainder where a modulus is given. -/
def readModulo (feature : Feature) (modulus : Option Int) (time : WallTime) : Int :=
  match modulus with
  | some modulus => feature.read time % modulus
  | none => feature.read time

end Feature

namespace Filter

/-- The filter that says `yes` where a condition holds and `no` elsewhere. -/
def choose (condition : WallTime → Bool) (yes no : Decision) : Filter := fun time =>
  if condition time then yes else no

end Filter

end Timetable
