import Timetable.Field
import Timetable.Offset

/-!
# What can go wrong

A fault is a cause, not a text: a defect of an expression, a zone that was not
given or is not known, an offset that could not be found, a window that ends
before it begins.  The wording of every fault is in this module.  Whoever looks
offsets up may report a fault in words of its own, so each of the causes that
such a report can name has a case that holds a text.

A call that has no result reports a fault, or else it is broken off: there are
readings that a wall clock would have to show and no clock can, and for these
nothing is reported.
-/

namespace Timetable

open Text

set_option autoImplicit false

/-! ## Defects of an expression -/

/-- Why an expression, one of its fields or its year is refused. -/
inductive Defect where
  /-- There are not six fields. -/
  | fieldCount (found : Nat)
  /-- A step is not a numeral below the limit. -/
  | badStep (field : Field) (step : String)
  /-- A step is zero. -/
  | zeroStep (field : Field)
  /-- A token is neither a name nor a numeral below the limit. -/
  | notANumber (field : Field) (token : String)
  /-- A range begins after its end. -/
  | inverted (field : Field) (low high : Nat)
  /-- A number is not in the domain of its field. -/
  | outOfBounds (field : Field) (number least greatest : Nat)
  /-- No item of a field says anything. -/
  | noValues (field : Field) (expression : String)
  /-- A year is neither a star nor a numeral. -/
  | badYear (token : String)
  /-- A year is too large. -/
  | yearOutOfRange (token : String)
  /-- A defect reported by others. -/
  | reported (text : String)
  deriving DecidableEq

namespace Defect

/-- The wording of a defect. -/
def message : Defect → String
  | fieldCount found =>
    "expected six fields (minute hour month-day month week-day year), found " ++ numeral found
  | badStep field step => field.name ++ ": invalid step '" ++ step ++ "'"
  | zeroStep field => field.name ++ ": step must be greater than zero"
  | notANumber field token => field.name ++ ": '" ++ token ++ "' is not a number"
  | inverted field low high =>
    field.name ++ ": range " ++ numeral low ++ "-" ++ numeral high ++ " is inverted"
  | outOfBounds field number least greatest =>
    field.name ++ ": " ++ numeral number ++ " is out of bounds (" ++ numeral least ++ "-" ++
      numeral greatest ++ ")"
  | noValues field expression =>
    field.name ++ ": '" ++ expression ++ "' does not resolve to any value"
  | badYear token => "year: '" ++ token ++ "' must be '*' or a year"
  | yearOutOfRange token => "year: '" ++ token ++ "' is out of range"
  | reported text => text

end Defect

/-! ## Faults -/

/-- Why a start or an end cannot be placed on the wall clock of a zone. -/
inductive ZoneLack where
  /-- No zone was given. -/
  | notGiven
  /-- The zone is not known. -/
  | unknown (zone : String)
  /-- A lack reported by others. -/
  | reported (text : String)
  deriving DecidableEq

namespace ZoneLack

/-- The wording of a lack. -/
def message : ZoneLack → String
  | notGiven => "no timezone was given"
  | unknown zone => "timezone '" ++ zone ++ "' is unknown"
  | reported text => text

end ZoneLack

/-- Why there is no offset for a reading. -/
inductive Obstacle where
  /-- Neither the reading nor the one a day before occurs on the wall clock. -/
  | noOffset (wall : WallTime)
  /-- The universal clock cannot show the instant. -/
  | unrepresentable (wall : WallTime) (offset : Offset)
  /-- An obstacle reported by others. -/
  | reported (text : String)
  deriving DecidableEq

namespace Obstacle

/-- The wording of an obstacle. -/
def message : Obstacle → String
  | noOffset wall => "no offset for local time " ++ wall.written
  | unrepresentable wall offset =>
    wall.written ++ " is not representable with offset " ++ offset.written
  | reported text => text

end Obstacle

/-- Why there is no schedule, or no next occurrence. -/
inductive Fault where
  /-- The expression has a defect. -/
  | expression (defect : Defect)
  /-- A start or an end is given, but no zone to place it in. -/
  | zoneMissing (lack : ZoneLack)
  /-- The offset of a zone could not be found. -/
  | resolution (zone : String) (obstacle : Obstacle)
  /-- Nobody knows the zone. -/
  | zoneUnknown (zone : String)
  /-- The window ends before it begins. -/
  | window (start stop : WallTime)
  deriving DecidableEq

namespace Fault

/-- The wording of a fault. -/
def message : Fault → String
  | expression defect => "Invalid expression: " ++ defect.message
  | zoneMissing lack =>
    "A resolvable timezone is required when a start or end is supplied: " ++ lack.message
  | resolution zone obstacle =>
    "Could not resolve timezone '" ++ zone ++ "': " ++ obstacle.message
  | zoneUnknown zone => "Unknown timezone '" ++ zone ++ "'"
  | window start stop => "Window end " ++ stop.written ++ " precedes window start " ++ start.written

/-- A fault met while looking an offset up, as a failure to resolve `zone`: one
that is such a failure stays as it is, and any other becomes the obstacle. -/
def asResolution (zone : String) : Fault → Fault
  | resolution failed obstacle => resolution failed obstacle
  | other => resolution zone (.reported other.message)

end Fault

/-! ## Calls without a result -/

/-- Why a call has no result. -/
inductive Failure where
  /-- A fault was met, which the call reports. -/
  | fault (fault : Fault)
  /-- A wall clock would have to show what no clock can show.  The call is broken off: it reports
  nothing and does not return. -/
  | overrun
  deriving DecidableEq

namespace Failure

/-- The failure with its fault, if there is one, put into other words. -/
def reword (words : Fault → Fault) : Failure → Failure
  | .fault met => .fault (words met)
  | .overrun => .overrun

@[simp] theorem reword_fault (words : Fault → Fault) (met : Fault) :
    (fault met).reword words = .fault (words met) := rfl

@[simp] theorem reword_overrun (words : Fault → Fault) : overrun.reword words = .overrun := rfl

end Failure

end Timetable
