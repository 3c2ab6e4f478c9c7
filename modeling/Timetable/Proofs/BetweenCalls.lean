import Timetable.Proofs.AnyPattern
import Timetable.Proofs.Histories
import Timetable.Proofs.WholeMinutes

/-!
# Schedules between calls

Whatever is called and whichever resolvers are installed, a schedule is in one of two states
between calls (`Schedule.Valid`).  It has ended, and then nothing is pending.  Or it is running, and
then its search draws from the window that it was built with, and an occurrence that is pending is a
candidate of that window that the filters let through, drawn before the place where the search is.

A schedule has ended exactly when a call found nothing.  It is the end for good: a schedule that has
ended is what every later call leaves, and no filter and no resolver has a part in that, although
its search may have matches left (`Schedule.course_invariant`).
-/

namespace Timetable

open WallTime

set_option autoImplicit false

/-- Only what is in a year passes the filter of the year. -/
theorem Filter.year_eq_of_accept {year : Nat} {time : WallTime}
    (accepted : Filter.ofYear (some year) time = .accept) : time.year = year := by
  simp only [Filter.ofYear] at accepted
  split_ifs at accepted with earlier same
  exact same

namespace Search

variable {pattern : Pattern} {window : Window} {search rest : Search} {found : WallTime}

/-! ## The search of a window -/

/-- The cursor of a search is a whole minute as long as it is in the years searched. -/
def OnMinutes (search : Search) : Prop :=
  ∀ cursor ∈ search.cursor, cursor.date.number < searchStop → cursor.IsWholeMinute

theorem OnMinutes.ofWindow (pattern : Pattern) (window : Window) :
    OnMinutes (ofWindow pattern window) := by
  intro cursor at_cursor _
  rcases @CursorFrom.ofWindow ∅ pattern window cursor at_cursor with whole | ⟨_, ⟨⟩, _⟩
  exact whole

theorem OnMinutes.skipTo (on_minutes : search.OnMinutes) {time : WallTime}
    (on_minute : time.date.number < searchStop → time.IsWholeMinute) :
    (search.skipTo time).OnMinutes := by
  intro moved at_moved in_years
  obtain ⟨cursor, at_cursor, rfl⟩ := Option.map_eq_some_iff.mp at_moved
  rcases max_choice cursor time with same | same
  · rw [same] at in_years ⊢
    exact on_minutes cursor at_cursor in_years
  · rw [same] at in_years ⊢
    exact on_minute in_years

/-- A match is a whole minute, and the cursor behind it is one later. -/
theorem OnMinutes.of_next (on_minutes : search.OnMinutes)
    (drawn : search.next = (some found, rest)) :
    found.IsWholeMinute ∧ rest.OnMinutes ∧ ∀ cursor ∈ rest.cursor, found < cursor := by
  rw [next] at drawn
  split at drawn
  · rename_i reached find
    obtain ⟨cursor, at_cursor, find⟩ := Option.bind_eq_some_iff.mp find
    obtain ⟨same, rfl⟩ := Prod.mk.inj drawn
    obtain rfl := Option.some.inj same
    obtain ⟨after, in_years⟩ := Pattern.seconds_of_find? find
    have cursor_in_years : cursor.date.number < searchStop := by
      have := cursor.secondOfDay_lt
      have := reached.secondOfDay_lt
      simp only [seconds] at after
      omega
    have whole : reached.IsWholeMinute := by
      rcases Pattern.isWholeMinute_or_retains_of_find? find with whole | kept
      · exact whole
      · exact kept.isWholeMinute (on_minutes cursor at_cursor cursor_in_years)
    refine ⟨whole, fun later elapsed _ => ?_, fun later elapsed => ?_⟩
    · exact (retains_of_elapse? (by omega) (by omega) elapsed).isWholeMinute whole
    · have passed := seconds_of_elapse? (by omega) elapsed
      exact (lt_iff _ _).mpr (.inl (by omega))
  · cases (Prod.mk.inj drawn).1

/-- A search draws the candidates of a window. -/
structure DrawsFrom (pattern : Pattern) (window : Window) (search : Search) : Prop where
  same_pattern : search.pattern = pattern
  on_minutes : search.OnMinutes
  in_window : ∀ minute, search.Within minute →
    window.start ≤ minute ∧ ∀ last ∈ window.stop, minute ≤ last

/-- What is drawn is a candidate, and the search behind it goes on later in the window. -/
theorem DrawsFrom.of_next (drawing : search.DrawsFrom pattern window)
    (drawn : search.next = (some found, rest)) :
    Candidate pattern window found ∧ rest.DrawsFrom pattern window ∧
      ∀ cursor ∈ rest.cursor, found < cursor := by
  obtain ⟨matching, in_years, same⟩ := matchesAt_of_next drawn
  obtain ⟨within, later⟩ := next_within drawn
  obtain ⟨whole, on_minutes, passed⟩ := drawing.on_minutes.of_next drawn
  obtain ⟨from_start, to_stop⟩ := drawing.in_window found within
  rw [drawing.same_pattern] at matching
  have same_pattern : rest.pattern = pattern := by rw [same, drawing.same_pattern]
  have in_window : ∀ minute, rest.Within minute →
      window.start ≤ minute ∧ ∀ last ∈ window.stop, minute ≤ last :=
    fun minute behind => drawing.in_window minute (later minute behind).2
  exact ⟨{ whole, matching, from_start, to_stop, in_years },
    { same_pattern, on_minutes, in_window }, passed⟩

/-- The same of what the filters let through. -/
theorem DrawsFrom.of_nextAccepted {filters : Chain} (drawing : search.DrawsFrom pattern window)
    (drawn : search.nextAccepted filters = (some found, rest)) :
    Candidate pattern window found ∧ filters.decide found = .accept ∧
      rest.DrawsFrom pattern window ∧ ∀ cursor ∈ rest.cursor, found < cursor := by
  revert drawing
  refine induction_of_nextAccepted drawn ?_ ?_
  · intro search next accepted drawing
    obtain ⟨candidate, later, passed⟩ := drawing.of_next next
    exact ⟨candidate, accepted, later, passed⟩
  · exact fun next _ from_behind drawing => from_behind (drawing.of_next next).2.1

/-- All that a search lets through are candidates that the filters let through. -/
theorem DrawsFrom.of_mem_accepted {filters : Chain} (drawing : search.DrawsFrom pattern window) :
    ∀ minute ∈ search.accepted filters,
      Candidate pattern window minute ∧ filters.decide minute = .accept := by
  fun_induction accepted filters search with
  | case1 => exact List.forall_mem_nil _
  | case2 search found rest drawn ih =>
    obtain ⟨candidate, accepted, later, -⟩ := drawing.of_nextAccepted drawn
    exact List.forall_mem_cons.mpr ⟨⟨candidate, accepted⟩, ih later⟩

end Search

namespace Schedule

variable {σ τ : Type} {pattern : Pattern} {window : Window} {filters : Chain}
  {schedule : Schedule σ}

/-- The search of a new schedule draws the candidates of its window. -/
theorem drawsFrom_searchFor (pattern : Pattern) (window : Window) (year : Option Nat) :
    (searchFor pattern window year).DrawsFrom pattern window := by
  have on_minutes : (searchFor pattern window year).OnMinutes := by
    cases year with
    | none => exact .ofWindow pattern window
    | some year => exact (Search.OnMinutes.ofWindow pattern window).skipTo startOfYear_isWholeMinute
  have same_pattern : (searchFor pattern window year).pattern = pattern := by
    cases year <;> rfl
  exact { same_pattern, on_minutes, in_window := fun _ within => searchFor_within within }

/-! ## What holds between calls -/

/-- An occurrence that waits to be fixed was let through, and lies behind the search. -/
structure Waits (pattern : Pattern) (window : Window) (filters : Chain) (search : Search)
    (occurrence : WallTime) : Prop where
  candidate : Candidate pattern window occurrence
  accepted : filters.decide occurrence = .accept
  passed : ∀ cursor ∈ search.cursor, occurrence < cursor

/-- A schedule of a window between calls. -/
inductive Valid (pattern : Pattern) (window : Window) (filters : Chain) (schedule : Schedule σ) :
    Prop where
  /-- It has ended, and nothing is pending. -/
  | ended (finished : schedule.finished = true) (nothing : schedule.pending = none)
  /-- It draws from the window, and what is pending waits to be fixed. -/
  | running (running : schedule.finished = false) (same_filters : schedule.filters = filters)
      (drawing : schedule.search.DrawsFrom pattern window)
      (waiting : ∀ occurrence ∈ schedule.pending,
        Waits pattern window filters schedule.search occurrence)

/-- After an attempt the occurrence waits still, or nothing is pending. -/
theorem Valid.attempt (schedule : Schedule σ) (running : schedule.finished = false)
    (same_filters : schedule.filters = filters)
    (drawing : schedule.search.DrawsFrom pattern window) {occurrence : WallTime}
    (waits : Waits pattern window filters schedule.search occurrence) :
    (schedule.attempt occurrence).2.Valid pattern window filters := by
  rw [Schedule.attempt]
  split
  · exact .running running same_filters drawing (by rintro _ ⟨⟩)
  · exact .running running same_filters drawing (by rintro _ ⟨⟩)
  · refine .running running same_filters drawing ?_
    rintro _ ⟨⟩
    exact waits

theorem Valid.advance (valid : schedule.Valid pattern window filters) :
    schedule.advance.2.Valid pattern window filters := by
  rcases valid with ⟨finished, nothing⟩ | ⟨running, same_filters, drawing, waiting⟩
  · rw [Schedule.advance, if_pos finished]
    exact .ended finished nothing
  · rw [Schedule.advance, if_neg (by simp [running])]
    split
    · rename_i occurrence pending
      exact .attempt schedule running same_filters drawing (waiting occurrence pending)
    · rename_i nothing
      split
      · exact .ended rfl nothing
      · rename_i occurrence search accepted
        rw [same_filters] at accepted
        obtain ⟨candidate, let_through, drawing, passed⟩ := drawing.of_nextAccepted accepted
        exact .attempt { schedule with search } running same_filters drawing
          ⟨candidate, let_through, passed⟩

/-- A call leaves a schedule valid, however many occurrences it drops on its way. -/
theorem Valid.next (valid : schedule.Valid pattern window filters) :
    schedule.next.2.Valid pattern window filters := by
  have advanced_valid := valid.advance
  fun_induction Schedule.next schedule with
  | case1 schedule zoned rest advanced => rwa [advanced] at advanced_valid
  | case2 schedule fault rest advanced => rwa [advanced] at advanced_valid
  | case3 schedule rest advanced => rwa [advanced] at advanced_valid
  | case4 schedule occurrence rest advanced ih =>
    rw [advanced] at advanced_valid
    exact ih advanced_valid advanced_valid.advance

/-- Where nothing is pending there is nothing to skip. -/
theorem skipPending_of_nothing (nothing : schedule.pending = none) :
    schedule.skipPending = (none, schedule) := by
  obtain ⟨expression, zone, window, pattern, filters, resolver, search, pending, finished⟩ :=
    schedule
  cases nothing
  rfl

theorem Valid.skipPending (valid : schedule.Valid pattern window filters) :
    schedule.skipPending.2.Valid pattern window filters := by
  rcases valid with ⟨finished, -⟩ | ⟨running, same_filters, drawing, -⟩
  · exact .ended finished rfl
  · exact .running running same_filters drawing (by rintro _ ⟨⟩)

theorem Valid.setResolver (valid : schedule.Valid pattern window filters) (resolver : Resolver τ) :
    (schedule.setResolver resolver).Valid pattern window filters := by
  rcases valid with ⟨finished, nothing⟩ | ⟨running, same_filters, drawing, waiting⟩
  · exact .ended finished nothing
  · exact .running running same_filters drawing waiting

/-- A schedule that was built is valid for its window. -/
theorem valid_of_build {now : WallTime} {options : Options} {resolver : Resolver σ}
    {first : Schedule σ} {pattern : Pattern} {year : Option Nat}
    (compiled : options.compile = .ok (pattern, year))
    (built : (build now options resolver).1 = .ok first) :
    first.finished = false ∧
      first.Valid pattern first.window ⟨options.filters ++ [Filter.ofYear year]⟩ := by
  obtain ⟨_, _, _, window, _, _, -, -, -, -, rfl⟩ := eq_ofWindow_of_build compiled built
  exact ⟨rfl, .running rfl rfl (drawsFrom_searchFor pattern window year) (by rintro _ ⟨⟩)⟩

/-! ## Courses -/

/-- A course leads from `first` to a schedule by calls in any order; `answers` are what was drawn
meanwhile, one answer for each call. -/
inductive Course (first : Schedule σ) : {τ : Type} → List (Option Item) → Schedule τ → Prop where
  /-- Nothing has happened. -/
  | start : Course first [] first
  /-- An item was drawn, or none was left. -/
  | next {τ : Type} {answers : List (Option Item)} {schedule : Schedule τ} :
      Course first answers schedule →
        Course first (answers ++ [schedule.next.1]) schedule.next.2
  /-- The pending occurrence, if there was one, was skipped. -/
  | skip {τ : Type} {answers : List (Option Item)} {schedule : Schedule τ} :
      Course first answers schedule → Course first answers schedule.skipPending.2
  /-- Another resolver was installed. -/
  | install {τ υ : Type} {answers : List (Option Item)} {schedule : Schedule τ}
      (resolver : Resolver υ) :
      Course first answers schedule → Course first answers (schedule.setResolver resolver)

variable {first : Schedule σ} {answers : List (Option Item)}

theorem Course.valid {schedule : Schedule τ} (valid : first.Valid pattern window filters)
    (course : Course first answers schedule) : schedule.Valid pattern window filters := by
  induction course with
  | start => exact valid
  | next _ ih => exact ih.next
  | skip _ ih => exact ih.skipPending
  | install resolver _ ih => exact ih.setResolver resolver

/-- A schedule that has ended is what a call leaves that finds nothing. -/
theorem next_of_finished (finished : schedule.finished = true) :
    schedule.next = (none, schedule) := by
  have ended : schedule.advance = (.ended, schedule) := by rw [advance, if_pos finished]
  rw [next, ended]

/-- A schedule has ended exactly when some call found nothing. -/
theorem Course.finished_iff {schedule : Schedule τ} (running : first.finished = false)
    (course : Course first answers schedule) : schedule.finished = true ↔ none ∈ answers := by
  induction course with
  | start => simp [running]
  | @next _ answers schedule _ ih =>
    rw [schedule.next_eq_draw.2.2, List.mem_append, List.mem_singleton, eq_comm, ← ih]
    -- An end that was reached before is reached again.
    refine ⟨.inr, fun reached => reached.elim (fun finished => ?_) id⟩
    rw [next_of_finished finished]
  | skip _ ih => exact ih
  | install resolver _ ih => exact ih

/-- Whatever is called behind the end finds nothing, and leaves nothing pending. -/
theorem Course.of_finished {schedule : Schedule τ} (finished : first.finished = true)
    (nothing : first.pending = none) (course : Course first answers schedule) :
    schedule.finished = true ∧ schedule.pending = none ∧ ∀ answer ∈ answers, answer = none := by
  induction course with
  | start => exact ⟨finished, nothing, List.forall_mem_nil _⟩
  | next _ ih =>
    obtain ⟨ended, still_nothing, found_nothing⟩ := ih
    rw [next_of_finished ended, List.forall_mem_append]
    exact ⟨ended, still_nothing, found_nothing, List.forall_mem_singleton.mpr rfl⟩
  | skip _ ih => exact ⟨ih.1, rfl, ih.2.2⟩
  | install resolver _ ih => exact ih

/-- **What holds of a schedule at all times, whatever is called and whichever resolvers are
installed.**  An occurrence that is pending is a candidate of the window that all the filters let
through, before the place where the search is, and the schedule has not ended.  It has ended
exactly when a call found nothing; then nothing is pending, every later call finds nothing and
leaves it as it is, and would do so with any other filters and any other resolver. -/
theorem course_invariant {now : WallTime} {options : Options} {resolver : Resolver σ}
    {first : Schedule σ} {pattern : Pattern} {year : Option Nat}
    (compiled : options.compile = .ok (pattern, year))
    (built : (build now options resolver).1 = .ok first) {answers : List (Option Item)}
    {schedule : Schedule τ} (course : Course first answers schedule) :
    (∀ occurrence, schedule.pending = some occurrence →
        Candidate pattern first.window occurrence ∧
          (∀ demanded ∈ year, occurrence.year = demanded) ∧
            (∀ filter ∈ options.filters ++ [Filter.ofYear year], filter occurrence = .accept) ∧
              (∀ cursor ∈ schedule.search.cursor, occurrence < cursor) ∧
                schedule.finished = false) ∧
      (schedule.finished = true ↔ none ∈ answers) ∧
        (schedule.finished = true →
          schedule.pending = none ∧
            (∀ (υ : Type) (filters : Chain) (other : Resolver υ),
              let ended := { schedule with filters, resolver := other }
              ended.next = (none, ended) ∧ ended.skipPending = (none, ended)) ∧
              ∀ (υ : Type) (later_answers : List (Option Item)) (later : Schedule υ),
                Course schedule later_answers later →
                  later.finished = true ∧ later.pending = none ∧
                    ∀ answer ∈ later_answers, answer = none) := by
  obtain ⟨running, first_valid⟩ := valid_of_build compiled built
  have valid := course.valid first_valid
  have idle : schedule.finished = true → schedule.pending = none := by
    intro finished
    rcases valid with ⟨-, nothing⟩ | ⟨running, -⟩
    · exact nothing
    · cases finished.symm.trans running
  refine ⟨?_, course.finished_iff running, fun finished => ⟨idle finished, ?_, ?_⟩⟩
  · intro occurrence pending
    rcases valid with ⟨-, nothing⟩ | ⟨running, -, -, waiting⟩
    · cases nothing.symm.trans pending
    · obtain ⟨candidate, accepted, passed⟩ := waiting occurrence pending
      rw [Chain.decide_eq_verdict, verdict_eq_accept_iff] at accepted
      refine ⟨candidate, ?_, accepted, passed, running⟩
      rintro demanded ⟨⟩
      exact Filter.year_eq_of_accept (accepted _ (List.mem_append_right _ List.mem_cons_self))
  · intro _ filters other ended
    have still : ended.finished = true := finished
    exact ⟨next_of_finished still, skipPending_of_nothing (idle finished)⟩
  · exact fun _ _ _ later => later.of_finished finished (idle finished)

end Schedule

namespace Schedule.SpringForward

/-- The schedule that has come to its end behind the 31st. -/
def ended : Schedule Unit := resumed.next.2

/-- The 30th waits when its offset could not be found, before the place where the search is.  At the
end the search is at some place as well, since a filter ended the sequence; even without filters and
with another resolver nothing is drawn there. -/
theorem stranded_waits_and_ended_stays :
    (∃ answers, Course schedule answers stranded ∧ none ∉ answers ∧
        stranded.pending = some (halfPastOne 19812) ∧
          Candidate pattern window (halfPastOne 19812) ∧
            ∃ cursor ∈ stranded.search.cursor, halfPastOne 19812 < cursor) ∧
      ∃ answers, Course schedule answers ended ∧ none ∈ answers ∧
        ended.search.cursor.isSome = true ∧
          { ended with filters := .empty, resolver := .nowhere }.next =
            (none, { ended with filters := .empty, resolver := .nowhere }) := by
  have to_stranded : Course schedule _ stranded := .next (.install .nowhere (.next .start))
  have to_ended : Course schedule _ ended := .next (.install resolver (.skip to_stranded))
  have at_stranded := course_invariant options_compile build_eq_schedule to_stranded
  have at_ended := course_invariant options_compile build_eq_schedule to_ended
  have pending : stranded.pending = some (halfPastOne 19812) := by decide +kernel
  have finished : ended.finished = true := by decide +kernel
  obtain ⟨candidate, -, -, passed, running⟩ := at_stranded.1 _ pending
  refine ⟨⟨_, to_stranded, ?_, pending, candidate, ?_⟩,
    _, to_ended, at_ended.2.1.mp finished, ?_, ?_⟩
  · rw [← at_stranded.2.1, running]
    exact Bool.false_ne_true
  · have somewhere : stranded.search.cursor.isSome = true := by decide +kernel
    obtain ⟨cursor, at_cursor⟩ := Option.isSome_iff_exists.mp somewhere
    exact ⟨cursor, at_cursor, passed cursor at_cursor⟩
  · decide +kernel
  · exact ((at_ended.2.2 finished).2.1 Unit .empty .nowhere).1

end Schedule.SpringForward

end Timetable
