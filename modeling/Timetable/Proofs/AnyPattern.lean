import Timetable.Proofs.Forwards

/-!
# Searches for any pattern

A pattern need not come from an expression: its sets may hold numbers that no
calendar and no clock has.  And a search may be moved anywhere, to the middle of a
minute or into a leap second.  What it draws is right all the same.  It matches, it
lies in the window and in the years searched, it ascends, and a call in vain is
followed by nothing but such calls (`Search.run_spec`).  A search that is not moved
draws a beginning of the scan (`Search.take_isPrefix_upcoming`).

What is demanded and does not exist can only end that beginning early.  When the set
of the minutes goes beyond the last of an hour and leaves the last one out, then every
minute from the last member on leads to what no hour has, and all that is drawn lies
in one hour; with the hours of a day it is the same (`Constraint.Overshoots`).  Where
the last one is a member, the search never comes to what lies beyond, and goes on into
the next hour or the next day (`Search.BeyondTheClock.draws_on`).
-/

namespace Timetable

open Calendar WallTime

set_option autoImplicit false

namespace Constraint

variable {constraint : Constraint} {greatest n : Nat}

/-- A constraint allows a number above `greatest`, but not `greatest` itself. -/
def Overshoots (constraint : Constraint) (greatest : Nat) : Prop :=
  constraint.allows greatest = false ∧ ∃ n, greatest < n ∧ constraint.allows n = true

/-- There is a next number from every number up to `greatest`. -/
theorem Overshoots.nextFrom?_ne_none (overshoots : constraint.Overshoots greatest)
    (order : n ≤ greatest) : constraint.nextFrom? n ≠ none := by
  obtain ⟨-, beyond, above, allowed⟩ := overshoots
  intro none_left
  have below := (constraint.nextFrom?_eq_none_iff n).mp none_left beyond allowed
  omega

/-- What is allowed up to `greatest` is below it. -/
theorem Overshoots.lt_of_allows (overshoots : constraint.Overshoots greatest) (order : n ≤ greatest)
    (allowed : constraint.allows n = true) : n < greatest := by
  rcases Nat.lt_or_eq_of_le order with below | rfl
  · exact below
  · rw [overshoots.1] at allowed
    cases allowed

end Constraint

namespace WallTime

/-- Time that elapses within a day leaves the date. -/
theorem date_of_elapse? {time later : WallTime} {span : Int} (forwards : 0 < span)
    (within_day : time.secondOfDay + span < 86400) (elapsed : time.elapse? span = some later) :
    later.date = time.date ∧ (later.secondOfDay : Int) = time.secondOfDay + span := by
  have moved := seconds_of_elapse? forwards elapsed
  have := later.secondOfDay_lt
  simp only [seconds] at moved
  have same : later.date.number = time.date.number := by omega
  exact ⟨Date.ext same, by omega⟩

theorem date_of_atHour? {date : Date} {hour : Nat} {reached : WallTime}
    (set : atHour? date hour = some reached) : reached.date = date ∧ reached.hour = hour := by
  simp only [atHour?, Option.dite_none_right_eq_some, Option.some.injEq] at set
  obtain ⟨-, rfl⟩ := set
  refine ⟨rfl, ?_⟩
  simp only [WallTime.hour]
  omega

/-- Setting the minute leaves the date and the hour. -/
theorem date_of_withMinute? {time reached : WallTime} {minute : Nat}
    (set : time.withMinute? minute = some reached) :
    reached.date = time.date ∧ reached.hour = time.hour := by
  have in_hour := lt_of_withMinute? set
  have := time.second_lt
  simp only [withMinute?, Option.dite_none_right_eq_some, Option.some.injEq] at set
  obtain ⟨-, rfl⟩ := set
  refine ⟨rfl, ?_⟩
  simp only [hour] at *
  omega

end WallTime

namespace Pattern

variable {pattern : Pattern} {base time later : WallTime}

/-- What is found matches, and lies in the years searched. -/
theorem matchesAt_of_find? {stop : Option WallTime} {found : WallTime}
    (find : pattern.find? stop time = some found) :
    pattern.matchesAt found = true ∧ found.year ≤ yearLimit := by
  obtain ⟨accepted, -, in_years⟩ := examine_of_find? find
  exact ⟨(pattern.examine_eq_found_iff found).mp accepted,
    (lt_searchStop_iff found.date).mp in_years⟩

/-! ## Jumps that lead nowhere else -/

/-- **When the hours overshoot the day, no jump leaves a date that has a match.** -/
theorem Jump.date_eq (overshoots : pattern.hours.Overshoots 23)
    (matching : pattern.matchesAt base = true) (same : time.date = base.date)
    (jump : Jump pattern time later) : later.date = base.date := by
  obtain ⟨month, day, -, -⟩ := (pattern.matchesAt_iff base).mp matching
  have in_day : time.hour ≤ 23 := Nat.le_of_lt_succ time.hour_lt
  cases jump with
  | month no_month =>
    rw [same, month] at no_month
    cases no_month
  | day no_day =>
    rw [same, day] at no_day
    cases no_day
  | hoursOver no_hour => exact absurd no_hour (overshoots.nextFrom?_ne_none in_day)
  | hour next set => exact (date_of_atHour? set).1.trans same
  | minutesOver no_minute set elapsed allowed =>
    obtain ⟨start_date, start_hour⟩ := date_of_withMinute? set
    have early := overshoots.lt_of_allows in_day allowed
    rename_i hourStart
    have := hourStart.secondOfDay_eq
    have := hourStart.minute_lt
    have := hourStart.second_lt
    exact (date_of_elapse? (by omega) (by omega) elapsed).1.trans (start_date.trans same)
  | minute next set => exact (date_of_withMinute? set).1.trans same

/-- **When the minutes overshoot the hour, no jump leaves an hour that has a match.** -/
theorem Jump.hour_eq (overshoots : pattern.minutes.Overshoots 59)
    (matching : pattern.matchesAt base = true) (same_date : time.date = base.date)
    (same_hour : time.hour = base.hour) (jump : Jump pattern time later) :
    later.date = base.date ∧ later.hour = base.hour := by
  obtain ⟨month, day, allowed, -⟩ := (pattern.matchesAt_iff base).mp matching
  have this_hour : pattern.hours.nextFrom? time.hour = some base.hour := by
    rw [same_hour]
    exact (pattern.hours.nextFrom?_eq_self_iff base.hour).mpr allowed
  cases jump with
  | month no_month =>
    rw [same_date, month] at no_month
    cases no_month
  | day no_day =>
    rw [same_date, day] at no_day
    cases no_day
  | hoursOver no_hour =>
    rw [this_hour] at no_hour
    cases no_hour
  | hour next set =>
    obtain rfl := Option.some.inj (this_hour.symm.trans next)
    exact (date_of_atHour? set).imp_left fun same => same.trans same_date
  | minutesOver no_minute =>
    exact absurd no_minute (overshoots.nextFrom?_ne_none (Nat.le_of_lt_succ time.minute_lt))
  | minute next set =>
    obtain ⟨date, hour⟩ := date_of_withMinute? set
    exact ⟨date.trans same_date, hour.trans same_hour⟩

end Pattern

namespace Search

variable {search : Search}

/-! ## Any run of calls -/

/-- Moving a search forwards leaves it within itself. -/
theorem Within.of_skipTo {time minute : WallTime} (within : (search.skipTo time).Within minute) :
    search.Within minute := by
  obtain ⟨⟨moved, at_moved, after⟩, before_stop⟩ := within
  obtain ⟨cursor, at_cursor, rfl⟩ := Option.map_eq_some_iff.mp at_moved
  exact ⟨⟨cursor, at_cursor, (le_max_left cursor time).trans after⟩, before_stop⟩

/-- A match that is drawn lies in the years searched, and the search behind it is for the same
pattern. -/
theorem matchesAt_of_next {rest : Search} {found : WallTime}
    (drawn : search.next = (some found, rest)) :
    search.pattern.matchesAt found = true ∧ found.year ≤ yearLimit ∧
      rest = { search with cursor := found.elapse? 60 } := by
  rw [next] at drawn
  split at drawn
  · rename_i reached find
    obtain ⟨cursor, -, find⟩ := Option.bind_eq_some_iff.mp find
    obtain ⟨same, rfl⟩ := Prod.mk.inj drawn
    obtain rfl := Option.some.inj same
    exact ⟨(Pattern.matchesAt_of_find? find).1, (Pattern.matchesAt_of_find? find).2, rfl⟩
  · cases (Prod.mk.inj drawn).1

/-- **What is drawn in a run of calls matches, lies within the search and in the years searched, and
ascends; behind the first call in vain there are only such calls.** -/
theorem run_spec (search : Search) (calls : List Call) :
    ∃ (drawn : List WallTime) (vain : Nat),
      (search.run calls).1 = drawn.map some ++ List.replicate vain none ∧
        drawn.Pairwise (· < ·) ∧ ∀ time ∈ drawn, search.pattern.matchesAt time = true ∧
          search.Within time ∧ time.year ≤ yearLimit := by
  induction calls generalizing search with
  | nil => exact ⟨[], 0, rfl, List.Pairwise.nil, List.forall_mem_nil _⟩
  | cons call calls ih =>
    cases call with
    | skipTo time =>
      obtain ⟨drawn, vain, answers, ascending, sound⟩ := ih (search.skipTo time)
      refine ⟨drawn, vain, answers, ascending, fun reached member => ?_⟩
      obtain ⟨matching, within, in_years⟩ := sound reached member
      exact ⟨matching, within.of_skipTo, in_years⟩
    | next =>
      cases found : search.next.1 with
      | none =>
        have ended : search.next.2.cursor = none := by
          rw [next] at found ⊢
          split at found
          · cases found
          · rfl
        have vain := answers_of_ended ended calls
        refine ⟨[], (search.next.2.run calls).1.length + 1, ?_, List.Pairwise.nil,
          List.forall_mem_nil _⟩
        show search.next.1 :: (search.next.2.run calls).1 = _
        rw [found, List.eq_replicate_of_mem vain, List.length_replicate]
        rfl
      | some first =>
        have drawn_first : search.next = (some first, search.next.2) := Prod.ext found rfl
        obtain ⟨matching, in_years, rest⟩ := matchesAt_of_next drawn_first
        obtain ⟨within, later⟩ := next_within drawn_first
        obtain ⟨drawn, vain, answers, ascending, sound⟩ := ih search.next.2
        refine ⟨first :: drawn, vain, ?_, List.pairwise_cons.mpr ⟨?_, ascending⟩,
          List.forall_mem_cons.mpr ⟨⟨matching, within, in_years⟩, ?_⟩⟩
        · show search.next.1 :: (search.next.2.run calls).1 = _
          rw [found, answers]
          rfl
        · exact fun time member => (later time (sound time member).2.1).1
        · intro time member
          obtain ⟨time_matching, time_within, time_in_years⟩ := sound time member
          rw [rest] at time_matching
          exact ⟨time_matching, (later time time_within).2, time_in_years⟩

/-! ## Drawing without moving -/

/-- What is drawn is a beginning of the matches ahead. -/
theorem take_isPrefix_upcoming
    (examinable : ∀ cursor ∈ search.cursor, Pattern.Examinable cursor) (count : Nat) :
    (search.take count).1 <+: search.upcoming := by
  induction count generalizing search with
  | zero => exact List.nil_prefix
  | succ count ih =>
    rw [take]
    split
    · exact List.nil_prefix
    · rename_i found rest drawn
      obtain ⟨split_off, -, rest_examinable⟩ := upcoming_of_next examinable drawn
      rw [split_off]
      exact (List.prefix_cons_inj found).mpr (ih rest_examinable)

section Staying

variable (search) {κ : Type} (key : WallTime → κ)
  (jumps : ∀ {base time later : WallTime}, search.pattern.matchesAt base = true →
    key time = key base → Pattern.Jump search.pattern time later → key later = key base)
  (passes : ∀ {time later : WallTime}, search.pattern.matchesAt time = true →
    time.elapse? 60 = some later → key later = key time)

include jumps in
/-- What no jump away from a match changes is the same in what is found. -/
theorem key_of_find? {base time found : WallTime} {stop : Option WallTime}
    (matching : search.pattern.matchesAt base = true) (same : key time = key base)
    (find : search.pattern.find? stop time = some found) : key found = key base := by
  revert same
  refine Pattern.induction_of_find? find id ?_
  intro time later _ examined found_same same
  exact found_same (jumps matching same (Pattern.jump_of_examine examined))

include jumps passes in
/-- What is drawn behind a match has what no jump and no minute that passes changes. -/
theorem key_of_mem_take {base : WallTime} (matching : search.pattern.matchesAt base = true)
    (same : ∀ cursor ∈ search.cursor, key cursor = key base) (count : Nat) :
    ∀ time ∈ (search.take count).1, key time = key base := by
  induction count generalizing search with
  | zero => exact List.forall_mem_nil _
  | succ count ih =>
    rw [take]
    split
    · exact List.forall_mem_nil _
    · rename_i found rest drawn
      obtain ⟨found_matching, -, rfl⟩ := matchesAt_of_next drawn
      have found_same : key found = key base := by
        rw [next] at drawn
        split at drawn
        · rename_i reached find
          obtain ⟨cursor, at_cursor, find⟩ := Option.bind_eq_some_iff.mp find
          obtain rfl := Option.some.inj (Prod.mk.inj drawn).1
          exact key_of_find? search key jumps matching (same cursor at_cursor) find
        · cases (Prod.mk.inj drawn).1
      refine List.forall_mem_cons.mpr ⟨found_same, ih _ jumps passes matching ?_⟩
      exact fun cursor at_cursor => (passes found_matching at_cursor).trans found_same

include jumps passes in
/-- All that is drawn has what no jump and no minute that passes changes. -/
theorem key_of_take (count : Nat) :
    ∀ one ∈ (search.take count).1, ∀ other ∈ (search.take count).1, key one = key other := by
  cases count with
  | zero => exact List.forall_mem_nil _
  | succ count =>
    rw [take]
    split
    · exact List.forall_mem_nil _
    · rename_i found rest drawn
      obtain ⟨matching, -, rfl⟩ := matchesAt_of_next drawn
      let rest : Search := { search with cursor := found.elapse? 60 }
      have all : ∀ time ∈ found :: (take count rest).1, key time = key found :=
        List.forall_mem_cons.mpr ⟨rfl, key_of_mem_take rest key jumps passes matching
          (fun cursor at_cursor => passes matching at_cursor) count⟩
      exact fun one one_member other other_member =>
        (all one one_member).trans (all other other_member).symm

end Staying

/-- When the hours overshoot the day, all that is drawn lies on one day. -/
theorem date_of_take (overshoots : search.pattern.hours.Overshoots 23) (count : Nat) :
    ∀ one ∈ (search.take count).1, ∀ other ∈ (search.take count).1, one.date = other.date := by
  refine key_of_take search _ (fun matching same jump => jump.date_eq overshoots matching same)
    ?_ count
  intro time later matching elapsed
  obtain ⟨-, -, allowed, -⟩ := (search.pattern.matchesAt_iff time).mp matching
  have early := overshoots.lt_of_allows (Nat.le_of_lt_succ time.hour_lt) allowed
  have := time.secondOfDay_eq
  have := time.minute_lt
  have := time.second_lt
  exact (date_of_elapse? (by omega) (by omega) elapsed).1

/-- When the minutes overshoot the hour, all that is drawn lies in one hour. -/
theorem hour_of_take (overshoots : search.pattern.minutes.Overshoots 59) (count : Nat) :
    ∀ one ∈ (search.take count).1, ∀ other ∈ (search.take count).1,
      one.date = other.date ∧ one.hour = other.hour := by
  suffices drawn : ∀ one ∈ (search.take count).1, ∀ other ∈ (search.take count).1,
      (one.date, one.hour) = (other.date, other.hour) from
    fun one one_member other other_member => Prod.mk.inj (drawn one one_member other other_member)
  refine key_of_take search (fun time => (time.date, time.hour)) ?_ ?_ count
  · intro base time later matching same jump
    obtain ⟨date, hour⟩ := Prod.mk.inj same
    exact Prod.ext_iff.mpr (jump.hour_eq overshoots matching date hour)
  · intro time later matching elapsed
    obtain ⟨-, -, -, allowed⟩ := (search.pattern.matchesAt_iff time).mp matching
    have early := overshoots.lt_of_allows (Nat.le_of_lt_succ time.minute_lt) allowed
    have := time.secondOfDay_eq
    have := time.hour_lt
    have := time.second_lt
    obtain ⟨date, passed⟩ := date_of_elapse? (by omega) (by omega) elapsed
    refine Prod.ext_iff.mpr ⟨date, ?_⟩
    simp only [WallTime.hour] at *
    omega

/-! ## The draws of a window -/

/-- **Whatever a pattern demands and wherever its search is moved, what is drawn is right.**  It
matches, lies in the window and in the years searched, and ascends, and behind the first call in
vain there are only such calls.  A search that is not moved draws a beginning of the scan, within
one hour when the minutes overshoot the hour, and on one day when the hours overshoot the day. -/
theorem draws_within_scan (pattern : Pattern) (window : Window) (shown : window.start.InRange) :
    (∀ calls, ∃ (drawn : List WallTime) (vain : Nat),
      ((ofWindow pattern window).run calls).1 = drawn.map some ++ List.replicate vain none ∧
        drawn.Pairwise (· < ·) ∧ ∀ time ∈ drawn, pattern.matchesAt time = true ∧
          window.start ≤ time ∧ (∀ last ∈ window.stop, time ≤ last) ∧ time.year ≤ yearLimit) ∧
      ∀ count, let drawn := ((ofWindow pattern window).take count).1
        drawn <+: pattern.matchesFrom window.stop window.start ∧
          (pattern.minutes.Overshoots 59 → ∀ one ∈ drawn, ∀ other ∈ drawn,
            one.date = other.date ∧ one.hour = other.hour) ∧
            (pattern.hours.Overshoots 23 → ∀ one ∈ drawn, ∀ other ∈ drawn,
              one.date = other.date) := by
  refine ⟨fun calls => ?_, fun count => ⟨?_, fun overshoots => hour_of_take overshoots count,
    fun overshoots => date_of_take overshoots count⟩⟩
  · obtain ⟨drawn, vain, answers, ascending, sound⟩ := (ofWindow pattern window).run_spec calls
    refine ⟨drawn, vain, answers, ascending, fun time member => ?_⟩
    obtain ⟨matching, within, in_years⟩ := sound time member
    change (Schedule.searchFor pattern window none).Within time at within
    have in_window := Schedule.searchFor_within within
    exact ⟨matching, in_window.1, in_window.2, in_years⟩
  · rw [← upcoming_ofWindow pattern shown.1]
    exact take_isPrefix_upcoming (examinable_ofWindow pattern shown.1) count

/-! ## Beyond the clock

Patterns that demand minutes no hour has, or hours no day has, from the first day of
2025 on. -/

namespace BeyondTheClock

/-- Some minutes of some hours, on every day. -/
def pattern (minutes hours : Constraint) : Pattern where
  minutes := minutes
  hours := hours
  monthDays := .any
  months := .any
  weekDays := .any
  year := "*"

/-- From midnight on the first day of 2025 on. -/
def window : Window where
  start := midnight ⟨20089⟩
  stop := none
  ordered := nofun

/-- The reading so many hours and minutes after that midnight. -/
def clock (hours minutes : Nat) : WallTime := window.start.shift (3600 * hours + 60 * minutes)

/-- The minutes 10, 30 and 75 of the hours 5 and 99. -/
def overshooting : Pattern :=
  pattern (.only ⟨#[10, 30, 75], by decide, by decide⟩) (.only ⟨#[5, 99], by decide, by decide⟩)

/-- The minutes 59 and 75 of every hour. -/
def lastMinute : Pattern := pattern (.only ⟨#[59, 75], by decide, by decide⟩) .any

/-- The hours 23 and 99. -/
def lastHour : Pattern := pattern (.only (.single 0)) (.only ⟨#[23, 99], by decide, by decide⟩)

/-- Two minutes of the first morning begin the scan, and all that is drawn is of their hour. -/
theorem draws_of_one_hour :
    window.start.InRange ∧ overshooting.minutes.Overshoots 59 ∧ overshooting.hours.Overshoots 23 ∧
      [clock 5 10, clock 5 30] <+: overshooting.matchesFrom none window.start ∧
        ∀ count, ∀ one ∈ ((ofWindow overshooting window).take count).1,
          ∀ other ∈ ((ofWindow overshooting window).take count).1,
            one.date = other.date ∧ one.hour = other.hour := by
  have shown : window.start.InRange := by decide
  have over_hour : overshooting.minutes.Overshoots 59 :=
    ⟨by decide +kernel, 75, by decide, by decide +kernel⟩
  have over_day : overshooting.hours.Overshoots 23 :=
    ⟨by decide +kernel, 99, by decide, by decide +kernel⟩
  have first : ((ofWindow overshooting window).take 3).1 = [clock 5 10, clock 5 30] := by
    decide +kernel
  obtain ⟨-, draws⟩ := draws_within_scan overshooting window shown
  refine ⟨shown, over_hour, over_day, first ▸ (draws 3).1, fun count => ?_⟩
  exact (draws count).2.1 over_hour

/-- With the last minute of the hour among the minutes, the search goes on into the next hour, and
with the last hour of the day among the hours, into the next day. -/
theorem draws_on :
    (∃ n, 59 < n ∧ lastMinute.minutes.allows n = true) ∧
      ((ofWindow lastMinute window).take 2).1 = [clock 0 59, clock 1 59] ∧
        (clock 0 59).hour ≠ (clock 1 59).hour ∧
          (∃ n, 23 < n ∧ lastHour.hours.allows n = true) ∧
            ((ofWindow lastHour window).take 2).1 = [clock 23 0, clock 47 0] ∧
              (clock 23 0).date ≠ (clock 47 0).date :=
  ⟨⟨75, by decide, by decide +kernel⟩, by decide +kernel, by decide,
    ⟨99, by decide, by decide +kernel⟩,
    by decide +kernel, by decide⟩

end BeyondTheClock

end Search

end Timetable
