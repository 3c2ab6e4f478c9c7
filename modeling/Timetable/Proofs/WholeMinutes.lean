import Timetable.Proofs.SearchRuns

/-!
# Where odd seconds come from

A search begins at a whole minute, and a jump arrives at one or moves the clock by
whole minutes.  So the seconds and nanoseconds of a reading are never made by a
search: what it draws is a whole minute, or has them from a reading that it was moved
to (`Search.next_isWholeMinute_or_retains`).

The second case does happen.  A window that starts within a minute is searched from the
next minute on, but a search that is moved to half a minute past midnight draws just
that reading, and from then on every minute with half a minute to it
(`Search.HalfMinute.next_not_isWholeMinute`).
-/

namespace Timetable

open WallTime

set_option autoImplicit false

namespace WallTime

/-! ## The part of a minute -/

/-- A reading has the part of a minute of another: its second and its nanoseconds, less a full
second where it was a leap second that has passed. -/
def Retains (time earlier : WallTime) : Prop :=
  time.second = earlier.second ∧
    (time.nanos = earlier.nanos ∨ time.nanos + 1000000000 = earlier.nanos)

variable {time earlier later : WallTime}

theorem Retains.refl (time : WallTime) : time.Retains time := ⟨rfl, .inl rfl⟩

theorem Retains.trans (second_half : later.Retains time) (first_half : time.Retains earlier) :
    later.Retains earlier := by
  obtain ⟨seconds, nanos⟩ := first_half
  obtain ⟨later_seconds, later_nanos⟩ := second_half
  -- No second passes twice: what was a leap second is none afterwards.
  have := earlier.nanos_lt
  exact ⟨later_seconds.trans seconds, by omega⟩

/-- What has the part of a minute of a whole minute is a whole minute. -/
theorem Retains.isWholeMinute (retains : later.Retains time) (whole : time.IsWholeMinute) :
    later.IsWholeMinute := by
  obtain ⟨no_second, no_nanos⟩ := whole
  obtain ⟨seconds, nanos⟩ := retains
  exact ⟨seconds.trans no_second, by omega⟩

/-- Readings that are whole minutes apart show the same second. -/
theorem second_eq_of_seconds (apart : later.seconds % 60 = time.seconds % 60) :
    later.second = time.second := by
  simp only [seconds] at apart
  simp only [second]
  omega

theorem retains_of_withMinute? {minute : Nat} (set : time.withMinute? minute = some later) :
    later.Retains time := by
  have moved := seconds_of_withMinute? set
  exact ⟨second_eq_of_seconds (by omega), .inl (nanos_of_withMinute? set)⟩

/-- Whole minutes that elapse leave the part of a minute. -/
theorem retains_of_elapse? {span : Int} (forwards : 0 < span) (minutes : span % 60 = 0)
    (elapsed : time.elapse? span = some later) : later.Retains time := by
  have moved := seconds_of_elapse? forwards elapsed
  refine ⟨second_eq_of_seconds (by omega), ?_⟩
  simp only [elapse?, inRange?] at elapsed
  split at elapsed
  · rw [Option.ite_none_right_eq_some, Option.some.injEq] at elapsed
    rw [← elapsed.2]
    exact .inl rfl
  · rename_i leap
    rw [Option.ite_none_right_eq_some, Option.some.injEq] at elapsed
    rw [← elapsed.2]
    exact .inr (by show time.nanos - 1000000000 + 1000000000 = time.nanos; omega)

end WallTime

/-! ## One search -/

/-- A jump arrives at a whole minute or leaves the part of a minute. -/
theorem Pattern.Jump.isWholeMinute_or_retains {pattern : Pattern} {time later : WallTime}
    (jump : Jump pattern time later) : later.IsWholeMinute ∨ later.Retains time := by
  cases jump with
  | month => exact .inl (midnight_isWholeMinute _)
  | day => exact .inl (midnight_isWholeMinute _)
  | hoursOver => exact .inl (midnight_isWholeMinute _)
  | hour next set => exact .inl (isWholeMinute_of_atHour? set)
  | minutesOver no_minute set elapsed =>
    have kept := retains_of_elapse? (by omega) (by omega) elapsed
    exact .inr (kept.trans (retains_of_withMinute? set))
  | minute next set => exact .inr (retains_of_withMinute? set)

/-- What is found is a whole minute, or has the part of a minute of the reading searched from. -/
theorem Pattern.isWholeMinute_or_retains_of_find? {pattern : Pattern} {stop : Option WallTime}
    {time found : WallTime} (find : pattern.find? stop time = some found) :
    found.IsWholeMinute ∨ found.Retains time := by
  refine induction_of_find? find (.inr (Retains.refl found)) ?_
  rintro time later - examined (whole | kept)
  · exact .inl whole
  · exact (jump_of_examine examined).isWholeMinute_or_retains.imp kept.isWholeMinute kept.trans

namespace Search

/-! ## Runs -/

/-- A reading is a whole minute, or has the part of a minute of one of some places. -/
def WholeOrFrom (places : Set WallTime) (time : WallTime) : Prop :=
  time.IsWholeMinute ∨ ∃ place ∈ places, time.Retains place

variable {places : Set WallTime}

theorem WholeOrFrom.of_retains {time later : WallTime} (origin : WholeOrFrom places time)
    (kept : later.IsWholeMinute ∨ later.Retains time) : WholeOrFrom places later := by
  rcases kept with whole | kept
  · exact .inl whole
  · refine origin.imp kept.isWholeMinute ?_
    rintro ⟨place, member, retains⟩
    exact ⟨place, member, kept.trans retains⟩

/-- The cursor of a search is a whole minute, or has the part of a minute of one of some places. -/
def CursorFrom (places : Set WallTime) (search : Search) : Prop :=
  ∀ cursor ∈ search.cursor, WholeOrFrom places cursor

/-- The search of a window begins at a whole minute. -/
theorem CursorFrom.ofWindow (pattern : Pattern) (window : Window) :
    CursorFrom places (Search.ofWindow pattern window) := by
  intro cursor at_cursor
  change window.firstMinute? = some cursor at at_cursor
  rw [Window.firstMinute?] at at_cursor
  split_ifs at at_cursor with start_whole
  · cases at_cursor
    exact .inl start_whole
  · have kept := retains_of_elapse? (by omega) (by omega) at_cursor
    exact .inl (kept.isWholeMinute (floorMinute_isWholeMinute window.start))

/-- A match, and the cursor behind it, have their part of a minute from the cursor before. -/
theorem CursorFrom.next {search : Search} (origin : CursorFrom places search) :
    (∀ found ∈ search.next.1, WholeOrFrom places found) ∧ CursorFrom places search.next.2 := by
  rw [Search.next]
  split
  · rename_i reached find
    rw [Option.bind_eq_some_iff] at find
    obtain ⟨cursor, at_cursor, find⟩ := find
    have drawn : WholeOrFrom places reached := (origin cursor at_cursor).of_retains
      (Pattern.isWholeMinute_or_retains_of_find? find)
    refine ⟨fun found same => ?_, fun moved elapsed => ?_⟩
    · obtain rfl := Option.some.inj same
      exact drawn
    · exact drawn.of_retains (.inr (retains_of_elapse? (by omega) (by omega) elapsed))
  · exact ⟨by rintro _ ⟨⟩, by rintro _ ⟨⟩⟩

theorem CursorFrom.skipTo {search : Search} (origin : CursorFrom places search) {time : WallTime}
    (place : time ∈ places) : CursorFrom places (search.skipTo time) := by
  intro moved at_moved
  obtain ⟨cursor, at_cursor, rfl⟩ := Option.map_eq_some_iff.mp at_moved
  rcases max_choice cursor time with same | same
  · rw [same]
    exact origin cursor at_cursor
  · rw [same]
    exact .inr ⟨time, place, Retains.refl time⟩

/-- After a run, the cursor has its part of a minute from the places moved to in the run, or from
those that it had it from before. -/
theorem CursorFrom.run {search : Search} (origin : CursorFrom places search) {calls : List Call}
    (moved_to : ∀ place, .skipTo place ∈ calls → place ∈ places) :
    CursorFrom places (search.run calls).2 := by
  induction calls generalizing search with
  | nil => exact origin
  | cons call calls ih =>
    have later_moved : ∀ place, .skipTo place ∈ calls → place ∈ places := fun place member =>
      moved_to place (List.mem_cons_of_mem _ member)
    cases call with
    | next => exact ih origin.next.2 later_moved
    | skipTo time => exact ih (origin.skipTo (moved_to time List.mem_cons_self)) later_moved

/-- **What is drawn is a whole minute, unless the search was moved to a reading that is none**; it
then has the second of that reading, and its nanoseconds up to a leap second. -/
theorem next_isWholeMinute_or_retains (pattern : Pattern) (window : Window) (calls : List Call)
    {found : WallTime} (drawn : ((ofWindow pattern window).run calls).2.next.1 = some found) :
    found.IsWholeMinute ∨
      ∃ place, .skipTo place ∈ calls ∧ ¬ place.IsWholeMinute ∧ found.Retains place := by
  have start : CursorFrom {place | .skipTo place ∈ calls} (ofWindow pattern window) :=
    .ofWindow pattern window
  have reached := start.run fun place member => member
  rcases reached.next.1 found drawn with whole | ⟨place, moved_to, retains⟩
  · exact .inl whole
  · by_cases place_whole : place.IsWholeMinute
    · exact .inl (retains.isWholeMinute place_whole)
    · exact .inr ⟨place, moved_to, place_whole, retains⟩

/-! ## Half a minute past midnight

Every minute of 2025, by a search that is moved to half a minute past the midnight
it begins at: it draws that reading, and half a minute past the minute after. -/

namespace HalfMinute

/-- From midnight on the first day of 2025 on. -/
def window : Window where
  start := midnight ⟨20089⟩
  stop := none
  ordered := by simp

/-- Some minutes and a half past midnight on the first day of 2025. -/
def halfPast (minutes : Nat) : WallTime := (midnight ⟨20089⟩).shift (60 * minutes + 30)

/-- The search is moved to half a minute past midnight, and a match is drawn. -/
def calls : List Call := [.skipTo (halfPast 0), .next]

/-- The second match is half a minute past the minute as well, and has this from the place that
the search was moved to. -/
theorem retains_halfPast :
    ((ofWindow .everyMinute window).run calls).2.next.1 = some (halfPast 1) ∧
      ∃ place, .skipTo place ∈ calls ∧ ¬ place.IsWholeMinute ∧ (halfPast 1).Retains place := by
  have drawn : ((ofWindow .everyMinute window).run calls).2.next.1 = some (halfPast 1) := by
    decide +kernel
  refine ⟨drawn, ?_⟩
  exact (next_isWholeMinute_or_retains .everyMinute window calls drawn).resolve_left (by decide)

/-- A search of every minute, once moved to half a minute past midnight, draws no whole minutes. -/
theorem next_not_isWholeMinute :
    Pattern.compile "* * * * * *" = .ok .everyMinute ∧
      ((ofWindow .everyMinute window).run [.skipTo (halfPast 0)]).2.next.1 = some (halfPast 0) ∧
      ¬ (halfPast 0).IsWholeMinute :=
  ⟨Pattern.compile_everyMinute, by decide +kernel, by decide⟩

end HalfMinute

end Search

end Timetable
