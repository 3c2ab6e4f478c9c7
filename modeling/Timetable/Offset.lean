import Timetable.WallTime.Written

/-!
# Offsets from universal time

An offset says by how much a wall clock is ahead of universal time.  A wall
clock reading together with its offset fixes an instant: the reading of the
universal clock at that moment.
-/

namespace Timetable

open Text

set_option autoImplicit false

/-- How far a wall clock is ahead of universal time. -/
@[ext]
structure Offset where
  /-- Seconds east of universal time. -/
  seconds : Int
  deriving DecidableEq

namespace Offset

/-- An offset as signed hours and minutes, with seconds where it has any. -/
def written (offset : Offset) : String :=
  let size := offset.seconds.natAbs
  let sign := if offset.seconds < 0 then '-' else '+'
  let odd := if size % 60 = 0 then [] else ':' :: padded 2 (size % 60)
  String.ofList (sign :: padded 2 (size / 3600) ++ ':' :: padded 2 (size / 60 % 60) ++ odd)

end Offset

namespace WallTime

/-- The reading of a wall clock at the moment when the universal clock shows `utc`. -/
def onWall (utc : WallTime) (offset : Offset) : WallTime := utc.shift offset.seconds

/-- The reading of the universal clock at the moment when a wall clock shows `wall`. -/
def toUtc (wall : WallTime) (offset : Offset) : WallTime := wall.shift (-offset.seconds)

end WallTime

/-- A wall clock reading and the offset of the wall clock. -/
@[ext]
structure Zoned where
  /-- What the wall clock shows. -/
  wall : WallTime
  /-- How far the wall clock is ahead of universal time. -/
  offset : Offset
  deriving DecidableEq

namespace Zoned

/-- The instant: what the universal clock shows. -/
def utc (zoned : Zoned) : WallTime := zoned.wall.toUtc zoned.offset

/-- The wall clock shows the instant moved by the offset. -/
theorem utc_onWall (zoned : Zoned) : zoned.utc.onWall zoned.offset = zoned.wall := by
  apply WallTime.eq_of_seconds
  · simp only [utc, WallTime.toUtc, WallTime.onWall, WallTime.seconds_shift]
    omega
  · rfl

end Zoned

end Timetable
