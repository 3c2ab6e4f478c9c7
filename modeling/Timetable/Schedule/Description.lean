import Timetable.Schedule
import Timetable.Text.Quoted

/-!
# The description of a schedule

A schedule is described on one line by its parts and its progress.  Texts are
quoted, readings have a T before the time of day, and what may be absent says so.
-/

namespace Timetable

open Text

set_option autoImplicit false

/-- A reading as it stands in descriptions. -/
def WallTime.described (time : WallTime) : String := time.writtenWith 'T'

/-- A reading that may be absent. -/
def describedOption : Option WallTime → String
  | some time => "Some(" ++ time.described ++ ")"
  | none => "None"

/-- A window by its start and its end. -/
def Window.described (window : Window) : String :=
  "Window \x7b start: " ++ window.start.described ++ ", end: " ++ describedOption window.stop ++
    " \x7d"

/-- A schedule by its parts and its progress. -/
def Schedule.described {σ : Type} (schedule : Schedule σ) : String :=
  "Schedule \x7b expression: " ++ quoted schedule.expression ++
    ", timezone: " ++ quoted schedule.zone ++
    ", window: " ++ schedule.window.described ++
    ", filters: " ++ schedule.filters.described ++
    ", cursor: " ++ describedOption schedule.search.cursor ++
    ", pending: " ++ describedOption schedule.pending ++
    ", finished: " ++ (if schedule.finished then "true" else "false") ++ " \x7d"

end Timetable
