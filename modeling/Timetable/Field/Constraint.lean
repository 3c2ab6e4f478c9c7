import Timetable.Field.ValueSet

/-!
# Constraints

A field either leaves its number free, which is written as a star, or limits it
to a value set.  A set of all numbers of a domain is a limit all the same: the
two are different constraints, and the rule for days tells them apart.
-/

namespace Timetable

set_option autoImplicit false

/-- What a field demands of a number. -/
inductive Constraint where
  /-- Any number will do. -/
  | any
  /-- Only the members of a set will do. -/
  | only (set : ValueSet)
  deriving DecidableEq

namespace Constraint

/-- Whether any number will do. -/
def isAny : Constraint → Bool
  | any => true
  | only _ => false

/-- Whether only the members of a set will do. -/
def isOnly : Constraint → Bool
  | any => false
  | only _ => true

/-- Whether a number will do. -/
def allows : Constraint → Nat → Bool
  | any, _ => true
  | only set, n => set.contains n

/-- The least number from `n` on that will do. -/
def nextFrom? : Constraint → Nat → Option Nat
  | any, n => some n
  | only set, n => set.nextFrom? n

/-- The next number from `n` on is not below `n`. -/
theorem le_of_nextFrom? {constraint : Constraint} {n m : Nat}
    (next : constraint.nextFrom? n = some m) : n ≤ m := by
  cases constraint with
  | any => exact Nat.le_of_eq (Option.some.inj next)
  | only set => exact ValueSet.le_of_nextFrom? next

/-- A star, or the members of the set with commas between them. -/
def writtenChars : Constraint → List Char
  | any => ['*']
  | only set => set.writtenChars

/-- A star, or the members of the set with commas between them. -/
def written (constraint : Constraint) : String := String.ofList constraint.writtenChars

end Constraint

end Timetable
