import Timetable.Proofs.Emission
import Timetable.Proofs.Failures
import Timetable.Proofs.Grammar

/-!
# The year as a restriction

A schedule for one year does not look at what comes before it and stops behind it.  That
is no more than a restriction: it emits what the schedule of every year emits in that
year (`Schedule.items_of_year`), provided that its filters do not end the sequence before
the year has come.

On the lists the argument is short.  In an ascending list the years before come first,
where filters that end nothing only take minutes out, and behind the year everything is
refused (`chosen_ofYear`).

A schedule of every year that meets an instant which no clock can show reports it for
ever and does not reach the year, whereas the schedule of the year begins behind it
(`Schedule.FirstDay.every_year_stuck`).  The same goes for an instant at which the wall
clock would show what no clock can show, where every call is broken off.
-/

namespace Timetable

open Calendar Text WallTime

set_option autoImplicit false

/-! ## What the filter of a year chooses -/

section Choice

variable {filters : List Filter} {year : Nat} {minute : WallTime} {minutes : List WallTime}

/-- The filter of no year changes nothing, and neither does that of a year within the year. -/
theorem verdict_concat_of_accept {last : Filter} (accepts : last minute = .accept) :
    verdict (filters ++ [last]) minute = verdict filters minute := by
  rw [verdict_concat]
  split_ifs with accepted
  · rw [accepts, accepted]
  · rfl

/-- Filters end the sequence together only where one of them does. -/
theorem verdict_ne_terminate (no_end : ∀ filter ∈ filters, filter minute ≠ .terminate) :
    verdict filters minute ≠ .terminate := by
  induction filters with
  | nil => exact nofun
  | cons filter others ih =>
    obtain ⟨here, rest⟩ := List.forall_mem_cons.mp no_end
    rw [verdict_cons]
    split_ifs
    · exact ih rest
    · exact here

/-- Behind the year nothing is chosen. -/
theorem chosen_of_later (later : ∀ minute ∈ minutes, year < minute.year) :
    chosen (filters ++ [Filter.ofYear (some year)]) minutes = [] := by
  rw [chosen, List.filter_eq_nil_iff]
  intro minute member
  have beyond := later minute (List.takeWhile_subset _ member)
  rw [decide_eq_true_iff]
  intro accepted
  have by_year := accepted _ (List.mem_append_right _ List.mem_cons_self)
  simp only [Filter.ofYear] at by_year
  rw [if_neg (by omega), if_neg (by omega)] at by_year
  cases by_year

/-- **Of an ascending list the filter of a year chooses from that year on what is chosen of the
year without it**, unless the filters end the sequence before. -/
theorem chosen_ofYear (ascending : minutes.Pairwise (· < ·))
    (no_end : ∀ minute ∈ minutes, minute.year < year → verdict filters minute ≠ .terminate) :
    chosen (filters ++ [Filter.ofYear (some year)])
        (minutes.filter fun minute => (year : Int) ≤ minute.year) =
      (chosen (filters ++ [Filter.ofYear none]) minutes).filter fun minute =>
        minute.year = (year : Int) := by
  induction minutes with
  | nil => rfl
  | cons minute later ih =>
    obtain ⟨after, later_ascending⟩ := List.pairwise_cons.mp ascending
    obtain ⟨no_end_here, no_end_later⟩ := List.forall_mem_cons.mp no_end
    have rest := ih later_ascending no_end_later
    have every : verdict (filters ++ [Filter.ofYear none]) minute = verdict filters minute :=
      verdict_concat_of_accept rfl
    rcases lt_trichotomy minute.year (year : Int) with before | same | beyond
    · -- Before the year the filters only take minutes out.
      rw [List.filter_cons_of_neg (by simpa using before), rest, chosen_cons, every]
      cases answer : verdict filters minute with
      | accept => rw [List.filter_cons_of_neg (by simpa using before.ne)]
      | reject => rfl
      | terminate => exact absurd answer (no_end_here before)
    · -- Within the year the filters decide as without it.
      have within : verdict (filters ++ [Filter.ofYear (some year)]) minute =
          verdict filters minute := by
        apply verdict_concat_of_accept
        simp only [Filter.ofYear, same, lt_irrefl, if_true, if_false]
      rw [List.filter_cons_of_pos (by simpa using same.ge), chosen_cons, chosen_cons, every, within]
      cases verdict filters minute with
      | accept => rw [List.filter_cons_of_pos (by simpa using same), rest]
      | reject => exact rest
      | terminate => rfl
    · -- Behind the year nothing is left of either list.
      have all_beyond : ∀ other ∈ minute :: later, (year : Int) < other.year := by
        refine List.forall_mem_cons.mpr ⟨beyond, fun other member => ?_⟩
        exact lt_of_lt_of_le beyond (year_le_year (after other member).le)
      rw [chosen_of_later fun other member => all_beyond other (List.mem_of_mem_filter member),
        eq_comm, List.filter_eq_nil_iff]
      intro other member
      have := all_beyond other ((chosen_sublist _ _).subset member)
      rw [decide_eq_true_iff]
      omega

end Choice

/-- The candidates of a year are those of every year from the year on. -/
theorem Pattern.candidates_some (pattern : Pattern) (word : String) (year : Nat) (start : WallTime)
    (stop : Option WallTime) :
    Pattern.candidates { pattern with year := word } (some year) start stop =
      (pattern.candidates none start stop).filter fun minute => (year : Int) ≤ minute.year := by
  rw [candidates, candidates, List.filter_filter]
  apply List.filter_congr
  intro minute _
  simp [midnight_ofYear_le_iff]

/-! ## Draws without a failure -/

namespace Resolver

variable {offset : Query → Offset} {zone : String} {occurrences left : List WallTime}
  {item : Option Schedule.Item}

/-- An occurrence that is fixed or dropped can be fixed. -/
theorem fixable_of_fixedBy {occurrence : WallTime} {existing : Option Zoned}
    (fixed : fixedBy offset zone occurrence = .ok existing) : Fixable offset zone occurrence := by
  simp only [fixedBy] at fixed
  by_cases instant : (zonedBy offset zone occurrence).utc.InRange
  · rw [if_pos instant] at fixed
    refine ⟨instant, ?_⟩
    by_contra beyond
    rw [if_neg beyond] at fixed
    cases fixed
  · rw [if_neg instant] at fixed
    cases fixed

/-- A draw that meets no failure takes occurrences that can be fixed, and takes all of them when it
finds none. -/
theorem drawBy_of_no_failure (drawn : drawBy offset zone occurrences = (item, left))
    (no_failure : ∀ failure, item ≠ some (.error failure)) :
    (∀ minute ∈ occurrences, minute ∈ left ∨ Fixable offset zone minute) ∧
      (item = none → left = []) := by
  induction occurrences with
  | nil =>
    cases drawn
    exact ⟨fun _ member => .inl member, fun _ => rfl⟩
  | cons occurrence others ih =>
    rw [drawBy] at drawn
    split at drawn
    · rename_i zoned fixed
      cases drawn
      refine ⟨List.forall_mem_cons.mpr ⟨.inr (fixable_of_fixedBy fixed), ?_⟩, by rintro ⟨⟩⟩
      exact fun _ member => .inl member
    · rename_i missing
      obtain ⟨taken, all⟩ := ih drawn
      exact ⟨List.forall_mem_cons.mpr ⟨.inr (fixable_of_fixedBy missing), taken⟩, all⟩
    · rename_i failure failed
      cases drawn
      exact absurd rfl (no_failure failure)

/-- What occurs of a part of a list is the same part of what occurs. -/
theorem occurring_filter (offset : Query → Offset) (zone : String) (occurrences : List WallTime)
    (keeps : WallTime → Bool) :
    occurring offset zone (occurrences.filter keeps) =
      (occurring offset zone occurrences).filter fun zoned => keeps zoned.wall := by
  rw [occurring, occurring, List.filter_map, List.filter_filter, List.filter_filter]
  congr 2
  funext occurrence
  exact Bool.and_comm _ _

end Resolver

/-! ## Expressions that differ in the year -/

/-- The last of six words is the year, and another year makes no other difference. -/
theorem Pattern.ofWords_append {fields : List (List Char)} {word other : List Char}
    {pattern : Pattern} {year : Option Nat} (compiled : ofWords (fields ++ [word]) = .ok pattern)
    (read : readYear other = .ok year) :
    pattern.year = String.ofList word ∧
      ofWords (fields ++ [other]) = .ok { pattern with year := String.ofList other } := by
  unfold ofWords at compiled
  split at compiled
  · rename_i minute hour monthDay month weekDay last six
    obtain ⟨rfl, last_eq⟩ :=
      List.append_inj' (show fields ++ [word] = [minute, hour, monthDay, month, weekDay] ++ [last]
        from six) rfl
    obtain rfl := List.singleton_injective last_eq
    simp only [bind_eq_ok_iff] at compiled
    obtain ⟨_, -, _, minutes, _, hours, _, monthDays, _, months, _, weekDays, made⟩ := compiled
    cases made
    refine ⟨rfl, ?_⟩
    simp only [List.cons_append, List.nil_append, ofWords, read, minutes, hours, monthDays, months,
      weekDays]
    rfl
  · cases compiled

namespace Schedule

section Restriction

variable {σ : Type} {offset : Query → Offset} {now : WallTime} {options : Options}
  {resolver : Resolver σ}

/-- Options with another year in the expression compile to the same pattern but for the year. -/
theorem Options.compile_of_words {expression : String} {fields : List (List Char)}
    {word other : List Char} {pattern : Pattern} {year other_year : Option Nat}
    (own_words : words options.expression.toList = fields ++ [word])
    (other_words : words expression.toList = fields ++ [other])
    (compiled : options.compile = .ok (pattern, year)) (read : readYear other = .ok other_year) :
    readYear word = .ok year ∧ Options.compile { options with expression } =
      .ok ({ pattern with year := String.ofList other }, other_year) := by
  obtain ⟨own_pattern, own_year⟩ := Options.compile_eq_ok_iff.mp compiled
  rw [Pattern.compile, own_words] at own_pattern
  obtain ⟨same, other_pattern⟩ := Pattern.ofWords_append own_pattern read
  rw [same, String.toList_ofList] at own_year
  refine ⟨own_year, Options.compile_eq_ok_iff.mpr ⟨?_, ?_⟩⟩
  · rw [Pattern.compile, other_words]
    exact other_pattern
  · rw [String.toList_ofList]
    exact read

/-- With another expression that compiles, a schedule is built in the same window. -/
theorem exists_build_of_compile {schedule : Schedule σ} {expression : String}
    {pattern other_pattern : Pattern} {year other_year : Option Nat}
    (compiled : options.compile = .ok (pattern, year))
    (other_compiled : Options.compile { options with expression } = .ok (other_pattern, other_year))
    (built : (build now options resolver).1 = .ok schedule) :
    ∃ other, (build now { options with expression } resolver).1 = .ok other ∧
      other.window = schedule.window ∧ other.zone = schedule.zone ∧
        other.resolver = schedule.resolver := by
  obtain ⟨zone, start, stop, window, started, stopped, named, placed, placed_stop, made, rfl⟩ :=
    eq_ofWindow_of_build compiled built
  exact ⟨_, build_eq_ok other_compiled named placed placed_stop made, rfl, rfl, rfl⟩

/-! ## Schedules that meet no failure -/

/-- The schedule after a number of calls. -/
def after (schedule : Schedule σ) (count : Nat) : Schedule σ :=
  (fun earlier : Schedule σ => earlier.next.2)^[count] schedule

theorem after_succ (schedule : Schedule σ) (count : Nat) :
    schedule.after (count + 1) = (schedule.after count).next.2 :=
  Function.iterate_succ_apply' _ _ _

/-- The item that a schedule gives after a number of calls. -/
def nthItem (schedule : Schedule σ) (count : Nat) : Option Item :=
  ((fun earlier : Schedule σ => earlier.next.2)^[count] schedule).next.1

/-- All that is ahead can be fixed when no failure is met on the way. -/
theorem fixable_of_no_failure {schedule : Schedule σ} (steady : schedule.resolver.Steady offset)
    (no_failure : ∀ count failure, schedule.nthItem count ≠ some (.error failure)) :
    ∀ minute ∈ schedule.ahead, Resolver.Fixable offset schedule.zone minute := by
  induction left : schedule.ahead.length using Nat.strong_induction_on generalizing schedule with
  | _ length ih =>
    obtain ⟨later_steady, zone, drawn⟩ := next_of_steady steady
    obtain ⟨taken, all⟩ := Resolver.drawBy_of_no_failure drawn (no_failure 0)
    intro minute member
    refine (taken minute member).elim (fun still_ahead => ?_) id
    -- Something is left ahead, so that the call has emitted an occurrence.
    cases item : schedule.next.1 with
    | none =>
      rw [all item] at still_ahead
      exact absurd still_ahead List.not_mem_nil
    | some result =>
      cases result with
      | error failure => exact absurd item (no_failure 0 failure)
      | ok zoned =>
        rw [item] at drawn
        have shorter := length_of_drawBy drawn
        rw [← zone]
        exact ih _ (left ▸ shorter) later_steady (fun count => no_failure (count + 1)) rfl
          minute still_ahead

/-! ## The restriction -/

/-- The schedule of a year has ahead what that of every year has ahead in the year. -/
theorem ahead_of_year {everyYear oneYear : Schedule σ} {expression : String} {pattern : Pattern}
    {word : String} {year : Nat} (every_compiled : options.compile = .ok (pattern, none))
    (one_compiled : Options.compile { options with expression } =
      .ok ({ pattern with year := word }, some year))
    (every_built : (build now options resolver).1 = .ok everyYear)
    (one_built : (build now { options with expression } resolver).1 = .ok oneYear)
    (same_window : oneYear.window = everyYear.window)
    (no_end : ∀ filter ∈ options.filters, ∀ minute, Candidate pattern everyYear.window minute →
      minute.year < year → filter minute ≠ .terminate) :
    oneYear.ahead = everyYear.ahead.filter fun minute => minute.year = (year : Int) := by
  have first := (start_inRange_of_build every_compiled every_built).1
  rw [ahead_of_build every_compiled every_built, ahead_of_build one_compiled one_built,
    same_window, Pattern.candidates_some]
  refine chosen_ofYear (pattern.candidates_ascending none _ _) fun minute member before => ?_
  have candidate := (mem_matchesFrom_iff_candidate pattern first minute).mp
    (List.mem_of_mem_filter member)
  exact verdict_ne_terminate fun filter given => no_end filter given minute candidate before

/-- **The year of an expression is a restriction.**  When no call on a schedule of every year
reports a fault or is broken off, the schedule of one year, with the same options otherwise, emits
exactly what the other emits in that year, in the same order; no filter may end the sequence at a
candidate before the year. -/
theorem items_of_year {everyYear : Schedule σ} {expression : String} {fields : List (List Char)}
    {numeral : List Char} {year : Nat} (steady : resolver.Steady offset)
    (every_words : words options.expression.toList = fields ++ [['*']])
    (one_words : words expression.toList = fields ++ [numeral])
    (read : readYear numeral = .ok (some year))
    (built : (build now options resolver).1 = .ok everyYear)
    (no_failure : ∀ count failure, everyYear.nthItem count ≠ some (.error failure))
    (no_end : ∀ filter ∈ options.filters, ∀ minute,
      Candidate everyYear.pattern everyYear.window minute →
        minute.year < year → filter minute ≠ .terminate) :
    ∃ (oneYear : Schedule σ) (items : List Zoned),
      (build now { options with expression } resolver).1 = .ok oneYear ∧
        (∀ count, everyYear.nthItem count = items[count]?.map .ok) ∧
          ∀ count, oneYear.nthItem count =
            (items.filter fun zoned => zoned.wall.year = (year : Int))[count]?.map .ok := by
  obtain ⟨pattern, every, window, compiled, -, parts, rule⟩ :=
    parts_of_build steady.unreliable built
  have same_pattern : everyYear.pattern = pattern := by rw [parts]; rfl
  rw [same_pattern] at no_end
  obtain ⟨star, one_compiled⟩ := Options.compile_of_words every_words one_words compiled read
  obtain rfl : none = every := Except.ok.inj star
  obtain ⟨oneYear, one_built, same_window, same_zone, same_resolver⟩ :=
    exists_build_of_compile compiled one_compiled built
  have in_year := ahead_of_year compiled one_compiled built one_built same_window no_end
  have still_steady := steady.of_rule rule
  have fixable := fixable_of_no_failure still_steady no_failure
  refine ⟨oneYear, Resolver.occurring offset everyYear.zone everyYear.ahead, one_built,
    iterate_next still_steady fixable, ?_⟩
  rw [← Resolver.occurring_filter offset everyYear.zone everyYear.ahead
    fun minute => minute.year = (year : Int), ← in_year, ← same_zone]
  apply iterate_next
  · rw [same_resolver]
    exact still_steady
  · intro minute member
    rw [in_year] at member
    rw [same_zone]
    exact fixable minute (List.mem_of_mem_filter member)

/-- No failure is met where the window begins three days within the range and no offset amounts to a
day. -/
theorem no_failure_of_bounded {schedule : Schedule σ} (steady : resolver.Steady offset)
    (built : (build now options resolver).1 = .ok schedule)
    (bounded : ∀ query, -86400 < (offset query).seconds ∧ (offset query).seconds < 86400)
    (away : yearStart firstYear + 3 ≤ (options.start.getD now).date.number) (count : Nat)
    (failure : Failure) : schedule.nthItem count ≠ some (.error failure) := by
  obtain ⟨pattern, year, window, compiled, made, parts, rule⟩ :=
    parts_of_build steady.unreliable built
  obtain ⟨start, stop⟩ := ends_of_make made
  have zone : schedule.zone = options.zone.getD defaultZone := by rw [parts]; rfl
  have same_window : schedule.window = window := by rw [parts]; rfl
  rw [← same_window] at start
  have ahead := ahead_of_build compiled built
  have item := iterate_next (steady.of_rule rule) (fun minute member => by
    rw [ahead, start] at member
    rw [zone]
    exact fixable_of_mem bounded away ((chosen_sublist _ _).subset member)) count
  rw [nthItem, item]
  cases (Resolver.occurring offset schedule.zone schedule.ahead)[count]? <;> nofun

/-- **Every call fails on an occurrence that is first ahead and cannot be fixed.** -/
theorem nthItem_of_stuck {schedule : Schedule σ} (steady : schedule.resolver.Steady offset)
    {occurrence : WallTime} {others : List WallTime} (ahead : schedule.ahead = occurrence :: others)
    {failure : Failure}
    (failed : Resolver.fixedBy offset schedule.zone occurrence = .error failure) (count : Nat) :
    schedule.nthItem count = some (.error failure) := by
  -- A call fails and leaves the same list ahead.
  induction count generalizing schedule with
  | zero =>
    obtain ⟨-, -, drawn⟩ := next_of_steady steady
    rw [ahead, Resolver.drawBy, failed] at drawn
    exact (Prod.mk.inj drawn).1.symm
  | succ count ih =>
    obtain ⟨later_steady, zone, drawn⟩ := next_of_steady steady
    rw [ahead, Resolver.drawBy, failed] at drawn
    exact ih later_steady (Prod.mk.inj drawn).2.symm (by rw [zone]; exact failed)

end Restriction

namespace SpringForward

/-- Half past one on the last days of March in every year. -/
def everyYearOptions : Options := { options with expression := "30 1 28-31 MAR * *" }

def everyYear : Schedule Unit :=
  ofWindow everyYearOptions "Europe/London" { pattern with year := "*" } none window resolver

theorem build_eq_everyYear :
    (build (midnight ⟨0⟩) everyYearOptions resolver).1 = .ok everyYear := by
  have compiled : everyYearOptions.compile = .ok ({ pattern with year := "*" }, none) := by rfl
  simp only [build, compiled]
  rfl

/-- The schedule of 2024 emits what that of every year emits in 2024. -/
theorem items_of_2024 :
    (build (midnight ⟨0⟩) everyYearOptions resolver).1 = .ok everyYear ∧
      (build (midnight ⟨0⟩) options resolver).1 = .ok schedule ∧
        resolver.Steady clockOffset ∧
          (∀ count failure, everyYear.nthItem count ≠ some (.error failure)) ∧
            ∃ items : List Zoned, (∀ count, everyYear.nthItem count = items[count]?.map .ok) ∧
              ∀ count, schedule.nthItem count =
                (items.filter fun zoned => zoned.wall.year = 2024)[count]?.map .ok := by
  have no_failure := no_failure_of_bounded resolver_steady build_eq_everyYear clockOffset_bounded
    (by decide)
  have every_words : words everyYearOptions.expression.toList =
      ["30".toList, "1".toList, "28-31".toList, "MAR".toList, ['*']] ++ [['*']] := by decide
  have one_words : words options.expression.toList =
      ["30".toList, "1".toList, "28-31".toList, "MAR".toList, ['*']] ++ ["2024".toList] := by
    decide
  have read : readYear "2024".toList = .ok (some 2024) := by rfl
  have no_end : ∀ filter ∈ everyYearOptions.filters, ∀ minute,
      Candidate everyYear.pattern everyYear.window minute →
        minute.year < (2024 : Nat) → filter minute ≠ .terminate := by
    refine List.forall_mem_singleton.mpr fun minute _ _ => ?_
    split_ifs <;> nofun
  obtain ⟨oneYear, items, built, every_items, one_items⟩ := items_of_year resolver_steady
    every_words one_words read build_eq_everyYear no_failure no_end
  obtain rfl : schedule = oneYear := Except.ok.inj (build_eq_schedule.symm.trans built)
  exact ⟨build_eq_everyYear, build_eq_schedule, resolver_steady, no_failure, items, every_items,
    one_items⟩

end SpringForward

/-! ### New years from the first day of all

The new years from the first day that a clock can show, where the wall clock is ahead by
an hour: the universal clock cannot show the instant of the first. -/

namespace FirstDay

/-- The first reading of all. -/
def first : WallTime := midnight ⟨yearStart firstYear⟩

/-- An hour ahead, for the wall clock at all times and for universal time from 2000 on. -/
def clockOffset (query : Query) : Offset :=
  match query.clock with
  | .wall => ⟨3600⟩
  | .utc => if midnight ⟨10957⟩ ≤ query.time then ⟨3600⟩ else ⟨0⟩

def resolver : Resolver Unit := .ofTables ⟨⟨3600⟩, []⟩ ⟨⟨0⟩, [(midnight ⟨10957⟩, ⟨3600⟩)]⟩

theorem resolver_steady : resolver.Steady clockOffset := by
  rintro _ ⟨clock, zone, time⟩
  cases clock with
  | wall => rfl
  | utc => rfl

/-- The new years from the first reading on. -/
def options : Options where
  expression := "0 0 1 1 * *"
  zone := some "X"
  start := some first

/-- The new year of 2024. -/
def optionsOf2024 : Options := { options with expression := "0 0 1 1 * 2024" }

def pattern : Pattern where
  minutes := .only (.single 0)
  hours := .only (.single 0)
  monthDays := .only (.single 1)
  months := .only (.single 1)
  weekDays := .any
  year := "*"

def window : Window where
  start := first
  stop := none
  ordered := by simp

def everyYear : Schedule Unit := ofWindow options "X" pattern none window resolver

def oneYear : Schedule Unit :=
  ofWindow optionsOf2024 "X" { pattern with year := "2024" } (some 2024) window resolver

theorem build_eq_everyYear : (build (midnight ⟨0⟩) options resolver).1 = .ok everyYear := by
  have compiled : options.compile = .ok (pattern, none) := by rfl
  simp only [build, compiled]
  rfl

theorem build_eq_oneYear : (build (midnight ⟨0⟩) optionsOf2024 resolver).1 = .ok oneYear := by
  have compiled : optionsOf2024.compile = .ok ({ pattern with year := "2024" }, some 2024) := by
    rfl
  simp only [build, compiled]
  rfl

theorem exists_ahead_eq_cons : ∃ others, everyYear.ahead = first :: others :=
  Search.exists_accepted_eq_cons (by decide +kernel)

/-- The schedule of every year emits nothing at all, and that of 2024 emits the new year. -/
theorem every_year_stuck :
    (build (midnight ⟨0⟩) options resolver).1 = .ok everyYear ∧
      (build (midnight ⟨0⟩) { options with expression := "0 0 1 1 * 2024" } resolver).1 =
        .ok oneYear ∧
        resolver.Steady clockOffset ∧ options.filters = [] ∧
          (∀ count zoned, everyYear.nthItem count ≠ some (.ok zoned)) ∧
            oneYear.nthItem 0 = some (.ok ⟨midnight (Date.ofYear 2024), ⟨3600⟩⟩) := by
  refine ⟨build_eq_everyYear, build_eq_oneYear, resolver_steady, rfl, fun count zoned => ?_,
    by decide +kernel⟩
  obtain ⟨others, ahead⟩ := exists_ahead_eq_cons
  have failed : Resolver.fixedBy clockOffset "X" first =
      .error (.fault (.resolution "X" (.unrepresentable first ⟨3600⟩))) := by rfl
  rw [nthItem_of_stuck resolver_steady ahead failed]
  exact nofun

end FirstDay

end Schedule

end Timetable
