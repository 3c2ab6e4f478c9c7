import Timetable.Pattern
import Timetable.Window

/-!
# The search for matching minutes

A search draws the minutes that match a pattern from a window, one after the
other.  Its cursor is the reading that is examined next.  A reading that does not
match is left by a jump over what cannot match either: to the next month, the
next day, the next allowed hour or the next allowed minute.  A search ends at the
stop of its window, behind the last year searched, or where an hour or a minute
is demanded that no day has.

A jump over days ends in the month it begins in, or at the beginning of the next.
Every jump goes forwards, so a search that never ends up on a match reaches the
last year searched; this is what the measure of `find?` says.
-/

namespace Timetable

open Calendar WallTime

set_option autoImplicit false

/-- The last year that is searched. -/
def yearLimit : Int := 5000

/-- The number of the day that follows the last year searched. -/
def searchStop : Int := yearStart (yearLimit + 1)

/-- A date lies in the years searched when its year is not above the limit. -/
theorem lt_searchStop_iff (date : Date) : date.number < searchStop ↔ date.year ≤ yearLimit :=
  (date.year_le_iff yearLimit).symm

/-! ## One examination -/

/-- What the examination of a reading comes to. -/
inductive Step where
  /-- The reading matches. -/
  | found
  /-- Nothing matches before the reading jumped to. -/
  | jump (time : WallTime)
  /-- What is demanded does not exist on any clock. -/
  | stuck
  deriving DecidableEq

namespace Step

/-- The jump to a reading, if a clock can show it. -/
def towards : Option WallTime → Step
  | some time => jump time
  | none => stuck

theorem towards_eq_jump_iff (target : Option WallTime) (time : WallTime) :
    towards target = jump time ↔ target = some time := by
  cases target <;> simp [towards]

end Step

namespace Pattern

/-- How many days in a row do not match, out of `left` days of one month from the given day of the
month and of the week on. -/
def idleDays (pattern : Pattern) (day weekday : Nat) : Nat → Nat
  | 0 => 0
  | left + 1 =>
    if pattern.dayMatches day weekday then 0
    else idleDays pattern (day + 1) (weekday % 7 + 1) left + 1

/-- The examination of a reading: month, then day, then hour, then minute. -/
def examine (pattern : Pattern) (time : WallTime) : Step :=
  let shown := time.date.calendarDay
  let weekday := time.date.weekday
  if !pattern.monthMatches shown.month then .jump (midnight time.date.nextMonth)
  else if !pattern.dayMatches shown.day weekday then
    let left := monthLength shown.year shown.month - shown.day
    let idle := pattern.idleDays (shown.day + 1) (weekday % 7 + 1) left
    .jump (midnight (time.date.later (idle + 1)))
  else
    match pattern.hours.nextFrom? time.hour with
    | none => .jump (midnight (time.date.later 1))
    | some hour =>
      if hour ≠ time.hour then .towards (atHour? time.date hour)
      else
        match pattern.minutes.nextFrom? time.minute with
        | none => .towards ((time.withMinute? 0).bind (·.elapse? 3600))
        | some minute => if minute = time.minute then .found else .towards (time.withMinute? minute)

/-- A jump goes forwards. -/
theorem seconds_lt_of_examine {pattern : Pattern} {time later : WallTime}
    (jump : pattern.examine time = .jump later) : time.seconds < later.seconds := by
  have later_day (days : Nat) : time.seconds < (midnight (time.date.later (days + 1))).seconds :=
    lt_midnight (by simp only [Date.later]; omega)
  simp only [examine] at jump
  split at jump
  · cases jump
    exact lt_midnight time.date.number_lt_nextMonth
  split at jump
  · cases jump
    exact later_day _
  split at jump
  · cases jump
    exact later_day 0
  · rename_i hour next_hour
    have hour_order := Constraint.le_of_nextFrom? next_hour
    split at jump
    · rw [Step.towards_eq_jump_iff] at jump
      exact lt_atHour? (by omega) jump
    · split at jump
      · rw [Step.towards_eq_jump_iff, Option.bind_eq_some_iff] at jump
        obtain ⟨hour_start, set, elapsed⟩ := jump
        have := seconds_of_withMinute? set
        have := seconds_of_elapse? (by omega) elapsed
        have := time.minute_lt
        omega
      · rename_i minute next_minute
        have minute_order := Constraint.le_of_nextFrom? next_minute
        split at jump
        · cases jump
        · rw [Step.towards_eq_jump_iff] at jump
          have := seconds_of_withMinute? jump
          omega

/-! ## Jumping to a match -/

/-- The first reading from `time` on that an examination accepts, up to `stop`
and within the years searched. -/
def find? (pattern : Pattern) (stop : Option WallTime) (time : WallTime) : Option WallTime :=
  if stop.any (· < time) then none
  else if _ : searchStop ≤ time.date.number then none
  else
    match _ : pattern.examine time with
    | .found => some time
    | .stuck => none
    | .jump later => find? pattern stop later
termination_by (searchStop * 86400 - time.seconds).toNat
decreasing_by
  have forwards := seconds_lt_of_examine ‹pattern.examine time = .jump later›
  have := time.secondOfDay_lt
  simp only [seconds] at *
  omega

/-- What is found is accepted, is not behind the stop, and lies in the years searched. -/
theorem examine_of_find? {pattern : Pattern} {stop : Option WallTime} {time found : WallTime}
    (find : pattern.find? stop time = some found) :
    pattern.examine found = .found ∧ ¬ stop.any (· < found) ∧ found.date.number < searchStop := by
  fun_induction find? pattern stop time with
  | case1 => cases find
  | case2 => cases find
  | case3 time not_past in_time accepted =>
    obtain rfl := Option.some.inj find
    exact ⟨accepted, not_past, Int.not_le.mp in_time⟩
  | case4 => cases find
  | case5 time not_past in_time later examined ih => exact ih find

/-- What holds of the reading that is found, and of a reading whenever it holds of the one jumped to
from there, holds of the reading searched from. -/
@[elab_as_elim]
theorem induction_of_find? {pattern : Pattern} {stop : Option WallTime} {time found : WallTime}
    {motive : WallTime → Prop} (find : pattern.find? stop time = some found) (here : motive found)
    (back : ∀ {time later : WallTime}, time.date.number < searchStop →
      pattern.examine time = .jump later → motive later → motive time) : motive time := by
  fun_induction find? pattern stop time with
  | case1 => cases find
  | case2 => cases find
  | case3 => exact Option.some.inj find ▸ here
  | case4 => cases find
  | case5 time not_past in_time later examined ih =>
    exact back (Int.not_le.mp in_time) examined (ih find)

/-- What is found is not before the reading searched from, and lies in the years searched. -/
theorem seconds_of_find? {pattern : Pattern} {stop : Option WallTime} {time found : WallTime}
    (find : pattern.find? stop time = some found) :
    time.seconds ≤ found.seconds ∧ found.date.number < searchStop := by
  refine ⟨induction_of_find? find (Int.le_refl _) ?_, (examine_of_find? find).2.2⟩
  intro time later _ examined after
  exact Int.le_trans (Int.le_of_lt (seconds_lt_of_examine examined)) after

end Pattern

/-! ## Searches -/

/-- A search for the minutes of a window that match a pattern. -/
@[ext]
structure Search where
  pattern : Pattern
  /-- The last reading of the window, if it ends. -/
  stop : Option WallTime
  /-- The reading that is examined next, until the search has ended. -/
  cursor : Option WallTime
  deriving DecidableEq

namespace Search

/-- The search of a window from its first whole minute on. -/
def ofWindow (pattern : Pattern) (window : Window) : Search :=
  { pattern, stop := window.stop, cursor := window.firstMinute? }

/-- The search moved forwards to a reading; it is never moved backwards. -/
def skipTo (search : Search) (time : WallTime) : Search :=
  { search with cursor := search.cursor.map (max · time) }

/-- The next match, and the search behind it. -/
def next (search : Search) : Option WallTime × Search :=
  match search.cursor.bind (search.pattern.find? search.stop) with
  | some found => (some found, { search with cursor := found.elapse? 60 })
  | none => (none, { search with cursor := none })

/-- The next matches, up to `count` of them, and the search behind the last. -/
def take : Nat → Search → List WallTime × Search
  | 0, search => ([], search)
  | count + 1, search =>
    match search.next with
    | (none, search) => ([], search)
    | (some found, search) =>
      let (others, search) := take count search
      (found :: others, search)

/-- The match after the next `count`, and the search behind it. -/
def nth (count : Nat) (search : Search) : Option WallTime × Search :=
  match search.take count with
  | (skipped, search) => if skipped.length < count then (none, search) else search.next

/-- How many seconds of the years searched are left; more than none until the search ends. -/
def remaining (search : Search) : Nat :=
  match search.cursor with
  | some cursor => (searchStop * 86400 - cursor.seconds).toNat + 1
  | none => 0

/-- A match leaves less to search. -/
theorem remaining_lt_of_next {search rest : Search} {found : WallTime}
    (next : search.next = (some found, rest)) : rest.remaining < search.remaining := by
  simp only [Search.next] at next
  split at next
  · rename_i reached find
    rw [Option.bind_eq_some_iff] at find
    obtain ⟨cursor, at_cursor, find⟩ := find
    have bounds := Pattern.seconds_of_find? find
    obtain ⟨-, rfl⟩ := Prod.mk.inj next
    simp only [remaining, at_cursor]
    split
    · rename_i moved_on elapsed
      have := seconds_of_elapse? (by omega) elapsed
      have := reached.secondOfDay_lt
      simp only [seconds] at *
      omega
    · omega
  · simp at next

end Search

end Timetable
