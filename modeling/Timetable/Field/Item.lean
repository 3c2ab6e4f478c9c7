import Timetable.Fault
import Timetable.Text.Pieces

/-!
# Items of a field

An item is a star, a number, or a range of two numbers with a dash between them,
and may be followed by a slash and a step.  It stands for a stretch of numbers:
every step-th number from the low end up to the high end.  A name of the domain
may stand wherever a number may, but only as a whole token.  A number with a
step runs on to the greatest number of the domain.

The step is read before the numbers, and the low number before the high one; the
first that cannot be read is the defect reported.
-/

namespace Timetable

open Text

set_option autoImplicit false

/-! ## Stretches -/

/-- Every `step`-th number from `low` up to `high`. -/
structure Stretch where
  low : Nat
  high : Nat
  step : Nat
  deriving DecidableEq

namespace Stretch

/-- The numbers of a stretch, in ascending order. -/
def numbers (stretch : Stretch) : List Nat :=
  List.range' stretch.low ((stretch.high - stretch.low) / stretch.step + 1) stretch.step

end Stretch

/-! ## Reading an item -/

namespace Domain

/-- The number that a token stands for: a name of the domain, or else a numeral. -/
def readToken (domain : Domain) (token : List Char) : Except Defect Nat :=
  match domain.named? (String.ofList token) with
  | some n => .ok n
  | none =>
    match readNumeral? numberLimit token with
    | some n => .ok n
    | none => .error (.notANumber domain.field (String.ofList token))

/-- The step that a text stands for. -/
def readStep (domain : Domain) (text : List Char) : Except Defect Nat :=
  match readNumeral? numberLimit text with
  | none => .error (.badStep domain.field (String.ofList text))
  | some 0 => .error (.zeroStep domain.field)
  | some step => .ok step

/-- The low and the high end that the part of an item before its step stands for. -/
def readEnds (domain : Domain) (base : List Char) (stepped : Bool) : Except Defect (Nat × Nat) :=
  if base = ['*'] then .ok (domain.least, domain.greatest)
  else
    match cut? '-' base with
    | some (left, right) => do
      let low ← domain.readToken left
      let high ← domain.readToken right
      if high < low then .error (.inverted domain.field low high) else .ok (low, high)
    | none => do
      let n ← domain.readToken base
      .ok (n, if stepped then domain.greatest else n)

/-- A number, if the domain allows it. -/
def checkBound (domain : Domain) (n : Nat) : Except Defect Unit :=
  if domain.Allows n then .ok ()
  else .error (.outOfBounds domain.field n domain.least domain.greatest)

/-- The stretch that an item stands for, written in capitals and without blanks around it. -/
def readItem (domain : Domain) (item : List Char) : Except Defect Stretch := do
  let (base, step?) ←
    match cut? '/' item with
    | some (base, text) => do
      let step ← domain.readStep text
      .ok (base, some step)
    | none => .ok (item, none)
  let (low, high) ← domain.readEnds base step?.isSome
  domain.checkBound low
  domain.checkBound high
  .ok { low, high, step := step?.getD 1 }

end Domain

end Timetable
