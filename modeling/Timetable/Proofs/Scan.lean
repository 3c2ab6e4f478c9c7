import Mathlib.Order.MinMax
import Timetable.Proofs.Jumps

/-!
# Searching is scanning

The matches that a search has ahead of it are told by a scan that looks at every
minute (`Pattern.matchesFrom`).  The search jumps, and yet it draws that list: each
match drawn is the first of the list, what it leaves ahead is the rest, and it
ends when the list is empty (`Search.next_upcoming`).  Moving a search forwards
drops the front of the list.

Over a run of calls this fixes every answer: the least minute of the window that
matches, is later than everything drawn before and not before anything skipped to
(`Search.next_isLeast`).
-/

namespace Timetable

open Calendar WallTime

set_option autoImplicit false

namespace WallTime

/-- A minute later. -/
def nextMinute (time : WallTime) : WallTime := time.shift 60

theorem nextMinute_isWholeMinute {time : WallTime} (whole : time.IsWholeMinute) :
    time.nextMinute.IsWholeMinute := by
  have sixty := whole.sixty_dvd
  refine isWholeMinute_of_seconds ?_ whole.2
  rw [nextMinute, seconds_shift]
  omega

/-- Between whole minutes, later means a minute or more later. -/
theorem nextMinute_le_iff {early late : WallTime} (early_whole : early.IsWholeMinute)
    (late_whole : late.IsWholeMinute) : early.nextMinute ≤ late ↔ early < late := by
  have early_sixty := early_whole.sixty_dvd
  have late_sixty := late_whole.sixty_dvd
  rw [(nextMinute_isWholeMinute early_whole).le_iff, late_whole.lt_iff, nextMinute, seconds_shift]
  omega

end WallTime

namespace Pattern

/-! ## The scan -/

/-- The minutes from a reading on that match, up to `stop` and within the years searched: every
minute is looked at. -/
def matchesFrom (pattern : Pattern) (stop : Option WallTime) (time : WallTime) : List WallTime :=
  (minutesThrough yearLimit).filter fun minute =>
    time ≤ minute ∧ pattern.matchesAt minute = true ∧ ∀ last ∈ stop, minute ≤ last

theorem mem_matchesFrom (pattern : Pattern) (stop : Option WallTime) (time minute : WallTime) :
    minute ∈ pattern.matchesFrom stop time ↔
      minute ∈ minutesThrough yearLimit ∧ time ≤ minute ∧ pattern.matchesAt minute = true ∧
        ∀ last ∈ stop, minute ≤ last := by
  rw [matchesFrom, List.mem_filter, decide_eq_true_iff]

theorem matchesFrom_ascending (pattern : Pattern) (stop : Option WallTime) (time : WallTime) :
    (pattern.matchesFrom stop time).Pairwise (· < ·) :=
  (minutesThrough_ascending yearLimit).filter _

/-- Nothing matches behind the stop. -/
theorem matchesFrom_of_stop_lt (pattern : Pattern) {stop : Option WallTime} {time : WallTime}
    (past : stop.any (· < time) = true) : pattern.matchesFrom stop time = [] := by
  rw [Option.any_eq_true_iff_get] at past
  obtain ⟨some_stop, past⟩ := past
  apply List.eq_nil_iff_forall_not_mem.mpr
  intro minute member
  obtain ⟨-, after, -, before_stop⟩ := (mem_matchesFrom _ _ _ _).mp member
  exact absurd (after.trans (before_stop _ (Option.get_mem some_stop)))
    (not_le_of_gt (of_decide_eq_true past))

/-- Nothing is looked at behind the last year searched. -/
theorem matchesFrom_of_searchStop_le (pattern : Pattern) (stop : Option WallTime) {time : WallTime}
    (beyond : searchStop ≤ time.date.number) : pattern.matchesFrom stop time = [] := by
  apply List.eq_nil_iff_forall_not_mem.mpr
  intro minute member
  obtain ⟨scanned, after, -, -⟩ := (mem_matchesFrom _ _ _ _).mp member
  have in_years := ((mem_minutesThrough yearLimit minute).mp scanned).2.2
  have := (lt_searchStop_iff minute.date).mpr in_years
  have := time.secondOfDay_lt
  have := minute.secondOfDay_lt
  rw [WallTime.le_iff] at after
  simp only [seconds] at after
  omega

/-- A minute that matches is the first, and the minute after it is looked at next. -/
theorem matchesFrom_of_matchesAt {pattern : Pattern} {stop : Option WallTime} {time : WallTime}
    (scanned : time ∈ minutesThrough yearLimit) (matching : pattern.matchesAt time = true)
    (before_stop : ∀ last ∈ stop, time ≤ last) :
    pattern.matchesFrom stop time = time :: pattern.matchesFrom stop time.nextMinute := by
  have whole := ((mem_minutesThrough yearLimit time).mp scanned).1
  have later {minute : WallTime} (member : minute ∈ minutesThrough yearLimit) :
      time.nextMinute ≤ minute ↔ time < minute :=
    nextMinute_le_iff whole ((mem_minutesThrough yearLimit minute).mp member).1
  have rest_ascending : (time :: pattern.matchesFrom stop time.nextMinute).Pairwise (· < ·) := by
    refine List.pairwise_cons.mpr ⟨?_, pattern.matchesFrom_ascending stop _⟩
    intro minute member
    obtain ⟨minute_scanned, after, -⟩ := (mem_matchesFrom _ _ _ _).mp member
    exact (later minute_scanned).mp after
  refine (pattern.matchesFrom_ascending stop time).eq_of_mem_iff rest_ascending fun minute => ?_
  rw [List.mem_cons, mem_matchesFrom, mem_matchesFrom]
  constructor
  · rintro ⟨minute_scanned, after, rest⟩
    rcases eq_or_lt_of_le after with same | behind
    · exact .inl same.symm
    · exact .inr ⟨minute_scanned, (later minute_scanned).mpr behind, rest⟩
  · rintro (rfl | ⟨minute_scanned, after, rest⟩)
    · exact ⟨scanned, le_refl _, matching, before_stop⟩
    · exact ⟨minute_scanned, le_of_lt ((later minute_scanned).mp after), rest⟩

/-- What a jump passes over is not on the list. -/
theorem matchesFrom_of_jump {pattern : Pattern} {time later : WallTime} (stop : Option WallTime)
    (whole : time.IsWholeMinute) (examined : pattern.examine time = .jump later) :
    pattern.matchesFrom stop time = pattern.matchesFrom stop later := by
  have jump := jump_of_examine examined
  have later_whole := jump.isWholeMinute whole
  have forwards := seconds_lt_of_examine examined
  rw [matchesFrom, matchesFrom]
  apply List.filter_congr
  intro minute _
  rw [decide_eq_decide, whole.le_iff, later_whole.le_iff]
  constructor
  · rintro ⟨after, matching, rest⟩
    refine ⟨?_, matching, rest⟩
    apply Int.not_lt.mp
    intro before
    rw [jump.not_matchesAt whole after before] at matching
    cases matching
  · rintro ⟨after, rest⟩
    exact ⟨by omega, rest⟩

/-! ## Jumping through the scan -/

/-- A reading that a search can be at: in the range of the clocks, and a whole minute unless it is
behind everything that is searched. -/
structure Examinable (time : WallTime) : Prop where
  first : yearStart firstYear ≤ time.date.number
  whole : time.date.number < searchStop → time.IsWholeMinute

/-- A jump leads on to a reading that a search can be at. -/
theorem Examinable.of_jump {pattern : Pattern} {time later : WallTime}
    (examinable : Examinable time) (in_years : time.date.number < searchStop)
    (examined : pattern.examine time = .jump later) : Examinable later := by
  refine ⟨?_, fun _ => (jump_of_examine examined).isWholeMinute (examinable.whole in_years)⟩
  have forwards := seconds_lt_of_examine examined
  have := examinable.first
  have := time.secondOfDay_lt
  have := later.secondOfDay_lt
  simp only [seconds] at forwards
  omega

/-- What the search by jumps finds is the first minute of the scan, whatever the pattern demands. -/
theorem matchesFrom_of_find? {pattern : Pattern} {stop : Option WallTime} {time found : WallTime}
    (examinable : Examinable time) (find : pattern.find? stop time = some found) :
    found ∈ minutesThrough yearLimit ∧
      pattern.matchesFrom stop time = found :: pattern.matchesFrom stop found.nextMinute := by
  obtain ⟨accepted, not_past, found_in_years⟩ := examine_of_find? find
  revert examinable
  refine induction_of_find? find ?_ ?_
  · intro examinable
    have scanned : found ∈ minutesThrough yearLimit :=
      (mem_minutesThrough yearLimit found).mpr ⟨examinable.whole found_in_years, examinable.first,
        (lt_searchStop_iff found.date).mp found_in_years⟩
    refine ⟨scanned, matchesFrom_of_matchesAt scanned ?_ ?_⟩
    · exact (pattern.examine_eq_found_iff found).mp accepted
    · intro last at_stop
      subst at_stop
      simpa using not_past
  · intro time later in_years examined from_later examinable
    rw [matchesFrom_of_jump stop (examinable.whole in_years) examined]
    exact from_later (examinable.of_jump in_years examined)

/-- Where the search by jumps finds nothing, the scan is empty, if the pattern demands nothing that
no day has. -/
theorem matchesFrom_of_find?_eq_none {pattern : Pattern} (domains : pattern.InDomains)
    {stop : Option WallTime} {time : WallTime} (examinable : Examinable time)
    (find : pattern.find? stop time = none) : pattern.matchesFrom stop time = [] := by
  fun_induction find? pattern stop time with
  | case1 time past => exact pattern.matchesFrom_of_stop_lt past
  | case2 time not_past beyond => exact pattern.matchesFrom_of_searchStop_le stop beyond
  | case3 => cases find
  | case4 time not_past in_time stuck =>
    have in_years := Int.not_le.mp in_time
    exact absurd stuck
      (examine_ne_stuck domains (examinable.whole in_years) examinable.first in_years)
  | case5 time not_past in_time later examined ih =>
    have in_years := Int.not_le.mp in_time
    rw [matchesFrom_of_jump stop (examinable.whole in_years) examined]
    exact ih (examinable.of_jump in_years examined) find

end Pattern

/-! ## The search of a window -/

/-- What is asked of the minutes that are drawn from a window. -/
structure Candidate (pattern : Pattern) (window : Window) (minute : WallTime) : Prop where
  whole : minute.IsWholeMinute
  matching : pattern.matchesAt minute = true
  from_start : window.start ≤ minute
  to_stop : ∀ last ∈ window.stop, minute ≤ last
  in_years : minute.year ≤ yearLimit

/-- The scan from the start of a window lists its candidates. -/
theorem mem_matchesFrom_iff_candidate (pattern : Pattern) {window : Window}
    (first : yearStart firstYear ≤ window.start.date.number) (minute : WallTime) :
    minute ∈ pattern.matchesFrom window.stop window.start ↔ Candidate pattern window minute := by
  rw [Pattern.mem_matchesFrom, mem_minutesThrough]
  constructor
  · rintro ⟨⟨whole, -, in_years⟩, from_start, matching, to_stop⟩
    exact { whole, matching, from_start, to_stop, in_years }
  · intro candidate
    have from_first : yearStart firstYear ≤ minute.date.number := by
      have after := candidate.from_start
      have := window.start.secondOfDay_lt
      have := minute.secondOfDay_lt
      rw [WallTime.le_iff] at after
      simp only [seconds] at after
      omega
    exact ⟨⟨candidate.whole, from_first, candidate.in_years⟩, candidate.from_start,
      candidate.matching, candidate.to_stop⟩

namespace Search

/-- The matches that a search has ahead of it. -/
def upcoming (search : Search) : List WallTime :=
  match search.cursor with
  | none => []
  | some cursor => search.pattern.matchesFrom search.stop cursor

/-- A search that is where its window and its calls can bring it. -/
structure Sound (search : Search) : Prop where
  domains : search.pattern.InDomains
  examinable : ∀ cursor ∈ search.cursor, Pattern.Examinable cursor

theorem upcoming_ascending (search : Search) : search.upcoming.Pairwise (· < ·) := by
  rw [upcoming]
  split
  · exact .nil
  · exact search.pattern.matchesFrom_ascending _ _

/-- The minute after one that was scanned can be examined, and a clock can show it. -/
theorem nextMinute_of_mem {minute : WallTime} (scanned : minute ∈ minutesThrough yearLimit) :
    minute.elapse? 60 = some minute.nextMinute ∧ Pattern.Examinable minute.nextMinute := by
  obtain ⟨whole, first, in_years⟩ := (mem_minutesThrough yearLimit minute).mp scanned
  have last := (lt_searchStop_iff minute.date).mpr in_years
  have no_nanos := whole.2
  refine ⟨elapse?_eq_shift (by omega) first last (by omega) (by omega), ?_, ?_⟩
  · simp only [nextMinute, shift]
    omega
  · exact fun _ => nextMinute_isWholeMinute whole

/-- A match that is drawn is the first ahead and leaves the others ahead, whatever the pattern
demands; what is examined next can be examined again. -/
theorem upcoming_of_next {search rest : Search} {found : WallTime}
    (examinable : ∀ cursor ∈ search.cursor, Pattern.Examinable cursor)
    (drawn : search.next = (some found, rest)) :
    search.upcoming = found :: rest.upcoming ∧ rest.pattern = search.pattern ∧
      ∀ cursor ∈ rest.cursor, Pattern.Examinable cursor := by
  obtain ⟨pattern, stop, cursor⟩ := search
  rw [next] at drawn
  split at drawn
  · rename_i reached find
    rw [Option.bind_eq_some_iff] at find
    obtain ⟨place, at_place, find⟩ := find
    cases Option.mem_def.mp at_place
    obtain ⟨same, rfl⟩ := Prod.mk.inj drawn
    obtain rfl := Option.some.inj same
    obtain ⟨scanned, split_off⟩ := Pattern.matchesFrom_of_find? (examinable place rfl) find
    obtain ⟨elapsed, later_examinable⟩ := nextMinute_of_mem scanned
    rw [elapsed]
    refine ⟨split_off, rfl, ?_⟩
    intro later at_later
    obtain rfl := Option.some.inj at_later
    exact later_examinable
  · cases (Prod.mk.inj drawn).1

/-- **A search draws the first match ahead and leaves the rest ahead; where none is left it ends.**
-/
theorem next_upcoming {search : Search} (sound : search.Sound) :
    search.next.2.Sound ∧
      match search.next.1 with
      | none => search.upcoming = [] ∧ search.next.2.cursor = none
      | some found => search.upcoming = found :: search.next.2.upcoming := by
  cases drawn : search.next.1 with
  | some found =>
    obtain ⟨split_off, same, examinable⟩ :=
      upcoming_of_next sound.examinable (Prod.ext drawn rfl : search.next = (some found, _))
    exact ⟨⟨same ▸ sound.domains, examinable⟩, split_off⟩
  | none =>
    obtain ⟨pattern, stop, cursor⟩ := search
    rw [next] at drawn ⊢
    split at drawn
    · cases drawn
    · rename_i find
      refine ⟨⟨sound.domains, by simp⟩, ?_, rfl⟩
      cases cursor with
      | none => rfl
      | some cursor =>
        exact Pattern.matchesFrom_of_find?_eq_none sound.domains (sound.examinable cursor rfl) find

/-- Moving a search forwards drops the matches before the place moved to. -/
theorem upcoming_skipTo (search : Search) (time : WallTime) :
    (search.skipTo time).upcoming = search.upcoming.filter (time ≤ ·) := by
  obtain ⟨pattern, stop, cursor⟩ := search
  cases cursor with
  | none => rfl
  | some cursor =>
    show pattern.matchesFrom stop (max cursor time) =
      (pattern.matchesFrom stop cursor).filter (time ≤ ·)
    rw [Pattern.matchesFrom, Pattern.matchesFrom, List.filter_filter]
    apply List.filter_congr
    intro minute _
    rw [← Bool.decide_and, decide_eq_decide, max_le_iff]
    constructor
    · rintro ⟨⟨after_cursor, after_time⟩, rest⟩
      exact ⟨after_time, after_cursor, rest⟩
    · rintro ⟨after_time, after_cursor, rest⟩
      exact ⟨⟨after_cursor, after_time⟩, rest⟩

theorem Sound.skipTo {search : Search} (sound : search.Sound) {time : WallTime}
    (on_minute : time.date.number < searchStop → time.IsWholeMinute) :
    (search.skipTo time).Sound := by
  refine ⟨sound.domains, ?_⟩
  intro reached at_reached
  obtain ⟨cursor, at_cursor, rfl⟩ := Option.map_eq_some_iff.mp at_reached
  have examinable := sound.examinable cursor at_cursor
  rcases le_total cursor time with order | order
  · rw [max_eq_right order]
    refine ⟨?_, on_minute⟩
    have := examinable.first
    have := time.secondOfDay_lt
    have := cursor.secondOfDay_lt
    rw [WallTime.le_iff] at order
    simp only [seconds] at order
    omega
  · rw [max_eq_left order]
    exact examinable

end Search

end Timetable
