import Timetable.Fault

/-!
# Windows

A window is the stretch of clock readings that occurrences are drawn from: from
its start on, and up to its stop where it has one, the stop included.  It never
stops before it starts.
-/

namespace Timetable

set_option autoImplicit false

/-- The stretch of clock readings that occurrences are drawn from. -/
@[ext]
structure Window where
  /-- The first reading of the window. -/
  start : WallTime
  /-- The last reading of the window, if it ends. -/
  stop : Option WallTime
  ordered : ∀ last ∈ stop, start ≤ last
  deriving DecidableEq

namespace Window

/-- The window from `start` to `stop`, which must not come before. -/
def make (start : WallTime) : Option WallTime → Except Fault Window
  | none => .ok ⟨start, none, by simp⟩
  | some stop =>
    if order : start ≤ stop then .ok ⟨start, some stop, by simpa using order⟩
    else .error (.window start stop)

/-- The first whole minute of the window, if the clock can show it: the minute of the start
when the start is its very beginning, and the next minute otherwise. -/
def firstMinute? (window : Window) : Option WallTime :=
  if window.start.IsWholeMinute then some window.start else window.start.floorMinute.elapse? 60

end Window

end Timetable
