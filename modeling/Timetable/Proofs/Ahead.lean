import Timetable.Proofs.Choice

/-!
# What a schedule has ahead

A schedule that is not finished has a list of occurrences ahead of it: the one
that is pending, and then those that the filters choose among the matches of its
search (`Schedule.ahead`).  The list is known when the schedule is built
(`Schedule.ahead_of_build`), and no resolver has a part in it.

Drawing is a walk along that list.  A resolver fixes, drops or fails to fix the
first occurrence of the list, and only a failure leaves it there; so the items of
a schedule are those of the walk (`Schedule.next_eq_draw`), and whatever is said
of a run is said of a list and a resolver.
-/

namespace Timetable

open Calendar WallTime

set_option autoImplicit false

/-! ## What is fixed -/

namespace Resolver

variable {σ : Type} {resolver later : Resolver σ} {zone : String} {occurrence : WallTime}
  {zoned : Zoned}

theorem wall_of_fix (fixed : resolver.fix zone occurrence = (.ok zoned, later)) :
    zoned.wall = occurrence := by
  rw [fix] at fixed
  split at fixed
  · rw [zonedAt] at fixed
    split_ifs at fixed
    · cases fixed
      rfl
    · cases fixed
  · cases fixed

/-- What is fixed shows the occurrence that it was fixed for. -/
theorem wall_of_fixExisting
    (fixed : resolver.fixExisting zone occurrence = (.ok (some zoned), later)) :
    zoned.wall = occurrence := by
  rw [fixExisting] at fixed
  split at fixed
  · cases fixed
  · rename_i placed asked fixing
    have wall := wall_of_fix fixing
    split at fixed
    · cases fixed
    · split_ifs at fixed
      · cases fixed
        exact wall
      · cases fixed

/-- A clock can show what a wall clock is said to show. -/
theorem inRange_of_wallAt {utc wall : WallTime}
    (looked : resolver.wallAt zone utc = (.ok wall, later)) : wall.InRange := by
  rw [wallAt] at looked
  split at looked
  · rw [readingAt] at looked
    split_ifs at looked with in_range
    · cases looked
      exact in_range
    · cases looked
  · cases looked

end Resolver

namespace Schedule

/-! ## The list ahead -/

variable {σ : Type}

/-- The occurrences that a schedule has still to settle, the pending one first. -/
def ahead (schedule : Schedule σ) : List WallTime :=
  if schedule.finished then []
  else schedule.pending.toList ++ schedule.search.accepted schedule.filters

/-! ## New schedules -/

/-- Options compile to a pattern and the year in it. -/
theorem Options.compile_eq_ok_iff {options : Options} {pattern : Pattern} {year : Option Nat} :
    options.compile = .ok (pattern, year) ↔
      Pattern.compile options.expression = .ok pattern ∧
        readYear pattern.year.toList = .ok year := by
  rw [Options.compile]
  cases Pattern.compile options.expression with
  | error defect => exact iff_of_false nofun nofun
  | ok compiled =>
    rw [Except.ok.injEq]
    constructor
    · intro both
      cases reading : readYear compiled.year.toList with
      | error defect => simp [reading, bind, Except.bind, Except.mapError] at both
      | ok compiled_year =>
        simp only [reading, bind, Except.bind, Except.mapError, Except.ok.injEq,
          Prod.mk.injEq] at both
        rw [← both.1, reading, both.2]
        exact ⟨rfl, rfl⟩
    · rintro ⟨rfl, reading⟩
      simp only [reading, bind, Except.bind, Except.mapError]

/-- The pattern of a schedule is compiled from its expression. -/
theorem Options.pattern_of_compile {options : Options} {pattern : Pattern} {year : Option Nat}
    (compiled : options.compile = .ok (pattern, year)) :
    Pattern.compile options.expression = .ok pattern := (compile_eq_ok_iff.mp compiled).1

theorem Options.compile_everyMinute (zone : String) (start stop : Option WallTime) :
    (everyMinute zone start stop).compile = .ok (.everyMinute, none) :=
  compile_eq_ok_iff.mpr ⟨Pattern.compile_everyMinute, rfl⟩

/-- A schedule that was built is that of a window, between the readings at which the resolver placed
the start and the stop. -/
theorem eq_ofWindow_of_build {now : WallTime} {options : Options} {resolver : Resolver σ}
    {schedule : Schedule σ} {pattern : Pattern} {year : Option Nat}
    (compiled : options.compile = .ok (pattern, year))
    (built : (build now options resolver).1 = .ok schedule) :
    ∃ zone start stop window started stopped, options.zoneName = .ok zone ∧
      placeStart resolver zone now options.start = (.ok start, started) ∧
        placeStop started zone options.stop = (.ok stop, stopped) ∧
          Window.make start stop = .ok window ∧
            schedule = ofWindow options zone pattern year window stopped := by
  simp only [build, compiled] at built
  split at built
  · cases built
  · rename_i zone named
    split at built
    · cases built
    · rename_i start started placed
      split at built
      · cases built
      · rename_i stop stopped placed_stop
        split at built
        · cases built
        · rename_i window made
          obtain rfl := Except.ok.inj built
          exact ⟨zone, start, stop, window, started, stopped, named, placed, placed_stop, made, rfl⟩

/-- What is compiled, named, placed and made is built. -/
theorem build_eq_ok {now : WallTime} {options : Options} {resolver started stopped : Resolver σ}
    {pattern : Pattern} {year : Option Nat} {zone : String} {start : WallTime}
    {stop : Option WallTime} {window : Window} (compiled : options.compile = .ok (pattern, year))
    (named : options.zoneName = .ok zone)
    (placed : placeStart resolver zone now options.start = (.ok start, started))
    (placed_stop : placeStop started zone options.stop = (.ok stop, stopped))
    (made : Window.make start stop = .ok window) :
    (build now options resolver).1 = .ok (ofWindow options zone pattern year window stopped) := by
  simp only [build, compiled, named, placed, placed_stop, made]

/-- The window made between a start and a stop has these ends. -/
theorem ends_of_make {start : WallTime} {stop : Option WallTime} {window : Window}
    (made : Window.make start stop = .ok window) : window.start = start ∧ window.stop = stop := by
  cases stop with
  | none =>
    cases made
    exact ⟨rfl, rfl⟩
  | some stop =>
    rw [Window.make] at made
    split_ifs at made
    cases made
    exact ⟨rfl, rfl⟩

/-- A start is placed where a clock can show it. -/
theorem inRange_of_placeStart {resolver later : Resolver σ} {zone : String} {now wall : WallTime}
    {start : Option WallTime} (placed : placeStart resolver zone now start = (.ok wall, later)) :
    wall.InRange := by
  cases start with
  | some utc =>
    rw [placeStart, placeGiven] at placed
    split at placed
    · rename_i looked
      cases placed
      exact Resolver.inRange_of_wallAt looked
    · cases placed
  | none =>
    rw [placeStart] at placed
    split at placed
    · rename_i looked
      cases placed
      exact Resolver.inRange_of_wallAt looked
    · cases placed

/-- The window of a schedule that was built begins within the range of clocks. -/
theorem start_inRange_of_build {now : WallTime} {options : Options} {resolver : Resolver σ}
    {schedule : Schedule σ} {pattern : Pattern} {year : Option Nat}
    (compiled : options.compile = .ok (pattern, year))
    (built : (build now options resolver).1 = .ok schedule) : schedule.window.start.InRange := by
  obtain ⟨zone, start, stop, window, started, stopped, -, placed, -, made, rfl⟩ :=
    eq_ofWindow_of_build compiled built
  show window.start.InRange
  rw [(ends_of_make made).1]
  exact inRange_of_placeStart placed

/-- **A schedule that was built has ahead what its filters, the year last, choose among the
candidates of its window**, with any resolver. -/
theorem ahead_of_build {now : WallTime} {options : Options} {resolver : Resolver σ}
    {schedule : Schedule σ} {pattern : Pattern} {year : Option Nat}
    (compiled : options.compile = .ok (pattern, year))
    (built : (build now options resolver).1 = .ok schedule) :
    schedule.ahead = chosen (options.filters ++ [Filter.ofYear year])
      (pattern.candidates year schedule.window.start schedule.window.stop) := by
  have first := (start_inRange_of_build compiled built).1
  obtain ⟨zone, start, stop, window, started, stopped, -, -, -, -, rfl⟩ :=
    eq_ofWindow_of_build compiled built
  have domains := Pattern.inDomains_of_compile (Options.pattern_of_compile compiled)
  change yearStart firstYear ≤ window.start.date.number at first
  obtain ⟨sound, upcoming⟩ := searchFor_spec domains first year
  show (searchFor pattern window year).accepted ⟨options.filters ++ [Filter.ofYear year]⟩ =
    chosen (options.filters ++ [Filter.ofYear year])
      (pattern.candidates year window.start window.stop)
  rw [Search.accepted_eq_chosen _ sound, upcoming]

/-! ## Attempts -/

/-- With nothing ahead an attempt finishes the schedule. -/
theorem advance_of_ahead_eq_nil {schedule : Schedule σ} (nothing : schedule.ahead = []) :
    ∃ search, schedule.advance = (.ended, { schedule with search, finished := true }) := by
  obtain ⟨expression, zone, window, pattern, filters, resolver, search, pending, finished⟩ :=
    schedule
  cases finished with
  | true => exact ⟨search, rfl⟩
  | false =>
    obtain ⟨no_pending, none_accepted⟩ := List.append_eq_nil_iff.mp nothing
    cases pending with
    | some occurrence => cases no_pending
    | none =>
      rw [Search.accepted] at none_accepted
      split at none_accepted
      · rename_i rest drawn
        refine ⟨rest, ?_⟩
        simp only [advance, drawn, Bool.false_eq_true, if_false]
      · cases none_accepted

/-- An attempt is made with the first occurrence ahead, the others being left to the search. -/
theorem advance_of_ahead_eq_cons {schedule : Schedule σ} {occurrence : WallTime}
    {later : List WallTime} (ahead : schedule.ahead = occurrence :: later) :
    schedule.finished = false ∧ ∃ search, search.accepted schedule.filters = later ∧
      schedule.advance = attempt { schedule with search } occurrence := by
  obtain ⟨expression, zone, window, pattern, filters, resolver, search, pending, finished⟩ :=
    schedule
  cases finished with
  | true => cases ahead
  | false =>
    refine ⟨rfl, ?_⟩
    cases pending with
    | some pending =>
      obtain ⟨rfl, rest⟩ := List.cons.inj ahead
      exact ⟨search, rest, rfl⟩
    | none =>
      change search.accepted filters = _ at ahead
      rw [Search.accepted] at ahead
      split at ahead
      · cases ahead
      · rename_i found rest drawn
        obtain ⟨rfl, accepted⟩ := List.cons.inj ahead
        refine ⟨rest, accepted, ?_⟩
        simp only [advance, drawn, Bool.false_eq_true, if_false]

/-- What is ahead of a schedule that is not finished, wherever its search and its resolver are. -/
theorem ahead_of_not_finished {schedule : Schedule σ} (running : schedule.finished = false)
    (search : Search) (resolver : Resolver σ) (pending : Option WallTime) :
    ahead { schedule with search, resolver, pending } =
      pending.toList ++ search.accepted schedule.filters := by
  rw [ahead, running]
  rfl

/-- **What an attempt makes of the list ahead.**  An occurrence that is fixed or dropped is the
first of the list and leaves it; one that cannot be fixed is the first and stays there as the
pending one. When the list is empty the schedule is finished. -/
theorem advance_spec (schedule : Schedule σ) :
    match schedule.advance with
    | (.ended, rest) => schedule.ahead = [] ∧
        rest = { schedule with search := rest.search, finished := true }
    | (.fixed zoned, rest) => schedule.ahead = zoned.wall :: rest.ahead ∧
        schedule.resolver.fixExisting schedule.zone zoned.wall = (.ok (some zoned), rest.resolver) ∧
          rest.zone = schedule.zone ∧ rest.finished = false
    | (.dropped occurrence, rest) => schedule.ahead = occurrence :: rest.ahead ∧
        schedule.resolver.fixExisting schedule.zone occurrence = (.ok none, rest.resolver) ∧
          rest.zone = schedule.zone ∧ rest.finished = false
    | (.failed failure, rest) => ∃ occurrence later, schedule.ahead = occurrence :: later ∧
        schedule.resolver.fixExisting schedule.zone occurrence = (.error failure, rest.resolver) ∧
          rest.ahead = schedule.ahead ∧ rest.zone = schedule.zone ∧ rest.finished = false := by
  cases list : schedule.ahead with
  | nil =>
    obtain ⟨search, advanced⟩ := advance_of_ahead_eq_nil list
    rw [advanced]
    exact ⟨rfl, rfl⟩
  | cons occurrence later =>
    obtain ⟨running, search, rest, advanced⟩ := advance_of_ahead_eq_cons list
    have settled (resolver : Resolver σ) :
        ahead { schedule with search, resolver, pending := none } = later :=
      (ahead_of_not_finished running search resolver none).trans rest
    rw [advanced, attempt]
    cases answer : schedule.resolver.fixExisting schedule.zone occurrence with
    | mk outcome resolver =>
      rcases outcome with failure | (_ | zoned)
      · have still : ahead { schedule with search, resolver, pending := some occurrence } =
            occurrence :: later := by
          rw [ahead_of_not_finished running, rest]
          rfl
        exact ⟨occurrence, later, rfl, answer, still, rfl, running⟩
      · exact ⟨by rw [settled], answer, rfl, running⟩
      · obtain rfl := Resolver.wall_of_fixExisting answer
        exact ⟨by rw [settled], answer, rfl, running⟩

end Schedule

/-! ## Drawing from a list -/

namespace Resolver

variable {σ : Type}

/-- The next item of a list of occurrences, the occurrences left ahead, and the resolver after the
lookups.  An occurrence that cannot be fixed stays ahead. -/
def draw (zone : String) (resolver : Resolver σ) :
    List WallTime → Option Schedule.Item × List WallTime × Resolver σ
  | [] => (none, [], resolver)
  | occurrence :: later =>
    match resolver.fixExisting zone occurrence with
    | (.ok (some zoned), resolver) => (some (.ok zoned), later, resolver)
    | (.ok none, resolver) => draw zone resolver later
    | (.error failure, resolver) => (some (.error failure), occurrence :: later, resolver)

end Resolver

namespace Schedule

variable {σ : Type}

/-- **The next item of a schedule is drawn from the list ahead of it**, and there is none exactly
when the schedule is finished behind it. -/
theorem next_eq_draw (schedule : Schedule σ) :
    (schedule.next.1, schedule.next.2.ahead, schedule.next.2.resolver) =
        schedule.resolver.draw schedule.zone schedule.ahead ∧
      schedule.next.2.zone = schedule.zone ∧
        (schedule.next.2.finished = true ↔ schedule.next.1 = none) := by
  -- The recursion over drops is the recursion of the draw over the list.
  fun_induction next schedule with
  | case1 schedule zoned rest advanced =>
    have spec := schedule.advance_spec
    rw [advanced] at spec
    obtain ⟨list, answer, zone, running⟩ := spec
    rw [list, Resolver.draw, answer]
    exact ⟨rfl, zone, by rw [running]; nofun, nofun⟩
  | case2 schedule failure rest advanced =>
    have spec := schedule.advance_spec
    rw [advanced] at spec
    obtain ⟨occurrence, later, list, answer, still, zone, running⟩ := spec
    rw [still, list, Resolver.draw, answer]
    exact ⟨rfl, zone, by rw [running]; nofun, nofun⟩
  | case3 schedule rest advanced =>
    have spec := schedule.advance_spec
    rw [advanced] at spec
    obtain ⟨nothing, reached⟩ := spec
    rw [nothing, reached]
    exact ⟨rfl, rfl, fun _ => rfl, fun _ => rfl⟩
  | case4 schedule occurrence rest advanced ih =>
    have spec := schedule.advance_spec
    rw [advanced] at spec
    obtain ⟨list, answer, zone, running⟩ := spec
    rw [list, Resolver.draw, answer]
    rw [zone] at ih
    exact ih

/-! ## The last days of March 2024

Half past one on four days, of which a filter rejects the first, the 28th, and the
clock is put forward over the last, the 31st.  The runs of this schedule are cases
of what is said of all runs. -/

namespace SpringForward

/-- Half past one on the day of a number. -/
def halfPastOne (day : Int) : WallTime := (midnight ⟨day⟩).shift 5400

def options : Options where
  expression := "30 1 28-31 MAR * 2024"
  zone := some "Europe/London"
  start := some (midnight ⟨19723⟩)
  filters := [fun time => if time.date.number = 19810 then .reject else .accept]

def pattern : Pattern where
  minutes := .only ⟨#[30], by decide, by decide⟩
  hours := .only ⟨#[1], by decide, by decide⟩
  monthDays := .only ⟨#[28, 29, 30, 31], by decide, by decide⟩
  months := .only ⟨#[3], by decide, by decide⟩
  weekDays := .any
  year := "2024"

/-- The 31st, one in the morning, when the wall clock is put forward to two. -/
def endOfWinter : Clock → WallTime
  | .utc => (midnight ⟨19813⟩).shift 3600
  | .wall => (midnight ⟨19813⟩).shift 7200

/-- Universal time, and an hour more when winter has ended. -/
def clockOffset (query : Query) : Offset :=
  if query.time < endOfWinter query.clock then ⟨0⟩ else ⟨3600⟩

def resolver : Resolver Unit := .ofFunction fun query => .ok (clockOffset query)

def window : Window where
  start := midnight ⟨19723⟩
  stop := none
  ordered := by simp

def schedule : Schedule Unit :=
  ofWindow options "Europe/London" pattern (some 2024) window resolver

theorem options_compile : options.compile = .ok (pattern, some 2024) := by rfl

theorem build_eq_schedule : (build (midnight ⟨0⟩) options resolver).1 = .ok schedule := by
  simp only [build, options_compile]
  rfl

end SpringForward

end Schedule

end Timetable
