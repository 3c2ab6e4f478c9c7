import Timetable.Offset

/-!
# Zones

A zone is the history of an offset: the one in force at first, and the
transitions to another, in ascending order.  Between two transitions the offset
stands.  An instant lies in one such span.  A reading of the wall clock may lie in
two of them, when the clock was put back, or in none, when it was put forward; of
two, the earlier one counts.  Only whole seconds are compared.
-/

namespace Timetable

set_option autoImplicit false

/-- A change of the offset of a zone. -/
structure Transition where
  /-- The instant of the change, in seconds of universal time since 1970. -/
  instant : Int
  /-- The offset from then on. -/
  offset : Offset
  deriving DecidableEq

/-- The history of the offset of a place. -/
structure Zone where
  /-- The offset before the first transition. -/
  base : Offset
  /-- The transitions, in ascending order. -/
  transitions : List Transition
  deriving DecidableEq

namespace Zone

/-! ## Looking an offset up -/

/-- The offset at an instant, when `current` is in force before the transitions. -/
def offsetAmong (current : Offset) (utc : Int) : List Transition → Offset
  | [] => current
  | transition :: later =>
    if utc < transition.instant then current else offsetAmong transition.offset utc later

/-- The offset at an instant: that of the last transition by then. -/
def offsetAt (zone : Zone) (utc : Int) : Offset := offsetAmong zone.base utc zone.transitions

/-- The offset of the first span in which the wall clock shows `wall`, from the span that begins
with `current` on. -/
def offsetOnWallFrom? (current : Transition) (wall : Int) : List Transition → Option Offset
  | [] => if current.instant + current.offset.seconds ≤ wall then some current.offset else none
  | next :: later =>
    if wall < next.instant + current.offset.seconds ∧
        current.instant + current.offset.seconds ≤ wall then
      some current.offset
    else offsetOnWallFrom? next wall later

/-- The offset of the first span in which the wall clock shows `wall`, if there is one. -/
def offsetOnWall? (zone : Zone) (wall : Int) : Option Offset :=
  match zone.transitions with
  | [] => some zone.base
  | first :: later =>
    if wall < first.instant + zone.base.seconds then some zone.base
    else offsetOnWallFrom? first wall later

/-- The offset for a wall clock reading: that of the earliest instant at which the wall clock
shows it, and in a gap that of the reading a day before. -/
def offsetForWall? (zone : Zone) (wall : WallTime) : Option Offset :=
  (zone.offsetOnWall? wall.seconds).or
    ((wall.elapse? (-86400)).bind fun dayBefore => zone.offsetOnWall? dayBefore.seconds)

end Zone

end Timetable
