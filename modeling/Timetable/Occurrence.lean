import Timetable.Resolver

/-!
# Occurrences on a wall clock

A reading of a wall clock is fixed to an instant by the offset that a resolver
reports for it.  The reading exists when the wall clock shows it at that instant:
in a gap the resolver borrows an offset, and the clock shows something else.
Whatever fault a resolver reports while a reading is fixed counts as a failure
to resolve the zone.

At the ends of the range an offset can lead out of it.  Towards the universal
clock that is a fault like others; towards the wall clock nothing is reported,
and the call is broken off.
-/

namespace Timetable

set_option autoImplicit false

namespace Resolver

variable {σ : Type}

/-- The reading of a wall clock at an instant, if a clock can show it. -/
def readingAt (utc : WallTime) (offset : Offset) : Except Failure WallTime :=
  if (utc.onWall offset).InRange then .ok (utc.onWall offset) else .error .overrun

theorem readingAt_of_inRange {utc : WallTime} {offset : Offset}
    (shown : (utc.onWall offset).InRange) : readingAt utc offset = .ok (utc.onWall offset) :=
  if_pos shown

theorem readingAt_of_not_inRange {utc : WallTime} {offset : Offset}
    (beyond : ¬ (utc.onWall offset).InRange) : readingAt utc offset = .error .overrun :=
  if_neg beyond

/-- What the wall clock of a zone shows at an instant. -/
def wallAt (resolver : Resolver σ) (zone : String) (utc : WallTime) :
    Except Failure WallTime × Resolver σ :=
  match resolver.ask { clock := .utc, zone, time := utc } with
  | (.ok offset, resolver) => (readingAt utc offset, resolver)
  | (.error fault, resolver) => (.error (.fault fault), resolver)

/-- A wall clock reading with its offset, if the universal clock can show the instant. -/
def zonedAt (zone : String) (wall : WallTime) (offset : Offset) : Except Fault Zoned :=
  if (wall.toUtc offset).InRange then .ok { wall, offset }
  else .error (.resolution zone (.unrepresentable wall offset))

/-- A wall clock reading fixed by the offset that the resolver reports for it. -/
def fix (resolver : Resolver σ) (zone : String) (wall : WallTime) :
    Except Fault Zoned × Resolver σ :=
  match resolver.ask { clock := .wall, zone, time := wall } with
  | (.ok offset, resolver) => (zonedAt zone wall offset, resolver)
  | (.error fault, resolver) => (.error (fault.asResolution zone), resolver)

/-- A wall clock reading fixed to an instant at which the wall clock shows it, if the clock shows
it at the instant that the reported offset gives. -/
def fixExisting (resolver : Resolver σ) (zone : String) (wall : WallTime) :
    Except Failure (Option Zoned) × Resolver σ :=
  match resolver.fix zone wall with
  | (.error fault, resolver) => (.error (.fault fault), resolver)
  | (.ok zoned, resolver) =>
    match resolver.wallAt zone zoned.utc with
    | (.error failure, resolver) => (.error (failure.reword (Fault.asResolution zone)), resolver)
    | (.ok shown, resolver) => (.ok (if shown = wall then some zoned else none), resolver)

end Resolver

end Timetable
