import Timetable.Proofs.Ahead

/-!
# Searches go forwards

Whatever a pattern demands and wherever a search begins, it goes forwards: a match
that it draws is not before the reading it is at, not after its stop, and before
all that it draws later (`Search.next_within`).  Filters take matches out and so
change nothing about that.  The occurrences ahead of a new schedule are therefore
ascending and lie in its window (`Schedule.ahead_within_of_build`), without any condition on
where the window is.
-/

namespace Timetable

open Calendar WallTime

set_option autoImplicit false

/-! ## One search -/

/-- What is found is not before the reading searched from, and not after the stop. -/
theorem Pattern.find?_within {pattern : Pattern} {stop : Option WallTime} {time found : WallTime}
    (find : pattern.find? stop time = some found) :
    time ≤ found ∧ ∀ last ∈ stop, found ≤ last := by
  constructor
  · refine induction_of_find? find (le_refl _) ?_
    intro time later _ examined after
    have forwards : time < later := (lt_iff _ _).mpr (.inl (seconds_lt_of_examine examined))
    exact (le_of_lt forwards).trans after
  · obtain ⟨-, not_past, -⟩ := examine_of_find? find
    intro last at_stop past
    rw [Option.mem_def.mp at_stop, Option.any_some, decide_eq_true past] at not_past
    exact not_past rfl

namespace Search

/-- The readings between the cursor of a search and its stop; none when it has ended. -/
def Within (search : Search) (minute : WallTime) : Prop :=
  (∃ cursor ∈ search.cursor, cursor ≤ minute) ∧ ∀ last ∈ search.stop, minute ≤ last

/-- **A match lies within the search, and what lies within the search behind it is later.** -/
theorem next_within {search rest : Search} {found : WallTime}
    (drawn : search.next = (some found, rest)) :
    search.Within found ∧ ∀ minute, rest.Within minute → found < minute ∧ search.Within minute := by
  rw [next] at drawn
  split at drawn
  · rename_i reached find
    rw [Option.bind_eq_some_iff] at find
    obtain ⟨cursor, at_cursor, find⟩ := find
    obtain ⟨after, before_stop⟩ := Pattern.find?_within find
    obtain ⟨same, rfl⟩ := Prod.mk.inj drawn
    obtain rfl := Option.some.inj same
    refine ⟨⟨⟨cursor, at_cursor, after⟩, before_stop⟩, ?_⟩
    rintro minute ⟨⟨moved_on, elapsed, later⟩, minute_before_stop⟩
    have passed := seconds_of_elapse? (by omega) elapsed
    have forwards : reached < minute :=
      lt_of_lt_of_le ((lt_iff _ _).mpr (.inl (by omega))) later
    exact ⟨forwards, ⟨cursor, at_cursor, after.trans (le_of_lt forwards)⟩, minute_before_stop⟩
  · cases (Prod.mk.inj drawn).1

/-- The same of a match that the filters let through. -/
theorem nextAccepted_within {filters : Chain} {search rest : Search} {found : WallTime}
    (drawn : search.nextAccepted filters = (some found, rest)) :
    search.Within found ∧ ∀ minute, rest.Within minute → found < minute ∧ search.Within minute := by
  refine induction_of_nextAccepted drawn ?_ ?_
  · exact fun next _ => next_within next
  · rintro search behind passed next - ⟨found_within, later⟩
    have widen := (next_within next).2
    exact ⟨(widen found found_within).2,
      fun minute within => ⟨(later minute within).1, (widen minute (later minute within).2).2⟩⟩

/-- **What a search lets through is ascending and lies within the search.** -/
theorem accepted_within (filters : Chain) (search : Search) :
    (search.accepted filters).Pairwise (· < ·) ∧
      ∀ minute ∈ search.accepted filters, search.Within minute := by
  fun_induction accepted filters search with
  | case1 => exact ⟨List.Pairwise.nil, List.forall_mem_nil _⟩
  | case2 search found rest drawn ih =>
    obtain ⟨ascending, within⟩ := ih
    obtain ⟨here, later⟩ := nextAccepted_within drawn
    refine ⟨List.pairwise_cons.mpr ⟨?_, ascending⟩, List.forall_mem_cons.mpr ⟨here, ?_⟩⟩
    · exact fun minute member => (later minute (within minute member)).1
    · exact fun minute member => (later minute (within minute member)).2

end Search

/-! ## New schedules -/

/-- The first minute of a window is not before the window. -/
theorem Window.start_le_firstMinute? {window : Window} {reached : WallTime}
    (first : window.firstMinute? = some reached) : window.start ≤ reached := by
  rw [firstMinute?] at first
  split_ifs at first
  · exact le_of_eq (Option.some.inj first)
  · have elapsed := seconds_of_elapse? (by omega) first
    have second_lt := window.start.second_lt
    have floor : window.start.floorMinute.seconds = window.start.seconds - window.start.second := by
      simp only [seconds, floorMinute, second]
      omega
    exact le_of_lt ((lt_iff _ _).mpr (.inl (by omega)))

namespace Schedule

variable {σ : Type}

/-- What lies within the search of a new schedule lies in its window. -/
theorem searchFor_within {pattern : Pattern} {window : Window} {year : Option Nat}
    {minute : WallTime} (within : (searchFor pattern window year).Within minute) :
    window.start ≤ minute ∧ ∀ last ∈ window.stop, minute ≤ last := by
  cases year with
  | none =>
    obtain ⟨⟨cursor, first, after⟩, before_stop⟩ := within
    exact ⟨(Window.start_le_firstMinute? first).trans after, before_stop⟩
  | some year =>
    obtain ⟨⟨cursor, moved, after⟩, before_stop⟩ := within
    obtain ⟨reached, first, rfl⟩ := Option.map_eq_some_iff.mp moved
    have not_before := (le_max_left reached (startOfYear year)).trans after
    exact ⟨(Window.start_le_firstMinute? first).trans not_before, before_stop⟩

/-- A schedule that was built is that of some window. -/
theorem exists_ofWindow_of_build {now : WallTime} {options : Options} {resolver : Resolver σ}
    {schedule : Schedule σ} (built : (build now options resolver).1 = .ok schedule) :
    ∃ zone pattern year window later,
      schedule = ofWindow options zone pattern year window later := by
  cases compiled : options.compile with
  | error fault =>
    rw [build, compiled] at built
    cases built
  | ok compilation =>
    obtain ⟨zone, _, _, window, _, stopped, -, -, -, -, same⟩ :=
      eq_ofWindow_of_build compiled built
    exact ⟨zone, compilation.1, compilation.2, window, stopped, same⟩

/-- **The occurrences ahead of a schedule that was built are ascending and lie in its window.** -/
theorem ahead_within_of_build {now : WallTime} {options : Options} {resolver : Resolver σ}
    {schedule : Schedule σ} (built : (build now options resolver).1 = .ok schedule) :
    schedule.ahead.Pairwise (· < ·) ∧ ∀ occurrence ∈ schedule.ahead,
      schedule.window.start ≤ occurrence ∧ ∀ last ∈ schedule.window.stop, occurrence ≤ last := by
  obtain ⟨zone, pattern, year, window, later, rfl⟩ := exists_ofWindow_of_build built
  obtain ⟨ascending, within⟩ := Search.accepted_within
    ((Chain.mk options.filters).push (Filter.ofYear year)) (searchFor pattern window year)
  exact ⟨ascending, fun occurrence member => searchFor_within (within occurrence member)⟩

end Schedule

end Timetable
