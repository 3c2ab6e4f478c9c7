import Timetable.Proofs.AnyPattern

/-!
# Expressions that come round

A pattern asks for some day or for none at all.  It asks for one by the days of the
week, since every week has them all and every month has whole weeks; by leaving the days
of the month free; or by a day of the month that one of its months has, February being
counted with 29 days (`Pattern.AsksForADay`).

A pattern that asks for a day comes round within eight years of any year: leap years are
four years apart, or eight where a century is left out.  So a search without a stop
never dries up before the last of the years searched comes near, and a search for a pattern
that asks for no day finds nothing at all (`Search.next_of_endless`).
-/

namespace Timetable

open Calendar WallTime

set_option autoImplicit false

namespace Calendar

/-! ## The longest months -/

/-- The number of days of a month in the years in which it is longest: February has 29. -/
def longestMonth (month : Nat) : Nat :=
  if month = 0 then 0 else (monthLengths true).getD (month - 1) 0

theorem monthLength_of_isLeap {year : Int} (leap : isLeap year = true) (month : Nat) :
    monthLength year month = longestMonth month := by
  rw [monthLength, leap, longestMonth]

theorem monthLength_le_longestMonth (year : Int) (month : Nat) :
    monthLength year month ≤ longestMonth month := by
  cases leap : isLeap year with
  | true => exact Nat.le_of_eq (monthLength_of_isLeap leap month)
  | false =>
    have shorter : ∀ passed < 12, (monthLengths false).getD passed 0 ≤
        (monthLengths true).getD passed 0 := by decide
    rw [monthLength, longestMonth, leap]
    split
    · exact Nat.le_refl 0
    · rcases Nat.lt_or_ge (month - 1) 12 with in_year | beyond
      · exact shorter _ in_year
      · rw [List.getD_eq_getElem?_getD, List.getElem?_eq_none beyond]
        exact Nat.zero_le _

/-- Among any eight years in a row there is a leap year. -/
theorem exists_leap_year (year : Int) :
    ∃ leap, year < leap ∧ leap ≤ year + 8 ∧ isLeap leap = true := by
  -- Of two multiples of four in a row one at least begins no century.
  have leap_of {multiple : Int} (four : multiple % 4 = 0) (no_century : multiple % 100 ≠ 0) :
      isLeap multiple = true := by
    simp [isLeap, four, no_century]
  by_cases century : (4 * (year / 4) + 4) % 100 = 0
  · exact ⟨4 * (year / 4) + 8, by omega, by omega, leap_of (by omega) (by omega)⟩
  · exact ⟨4 * (year / 4) + 4, by omega, by omega, leap_of (by omega) century⟩

end Calendar

/-! ## Dates with given places -/

namespace Date

/-- The calendar has every day of every month. -/
theorem exists_day {year : Int} {month day : Nat} (from_first : 1 ≤ day)
    (to_last : day ≤ monthLength year month) :
    ∃ date : Date, date.year = year ∧ date.month = month ∧ date.day = day := by
  have shown : (Date.mk (monthStart year month + (day - 1 : Nat))).calendarDay =
      { year, month, day := day - 1 + 1 } := calendarDay_eq (by omega) rfl
  rw [Nat.sub_add_cancel from_first] at shown
  exact ⟨_, congrArg CalendarDay.year shown, congrArg CalendarDay.month shown,
    congrArg CalendarDay.day shown⟩

/-- Every month has every day of the week. -/
theorem exists_weekday (year : Int) {month weekday : Nat} (from_january : 1 ≤ month)
    (to_december : month ≤ 12) (from_monday : 1 ≤ weekday) (to_sunday : weekday ≤ 7) :
    ∃ date : Date, date.year = year ∧ date.month = month ∧ date.weekday = weekday := by
  have long := four_weeks_le_monthLength year from_january to_december
  obtain ⟨passed, in_week, reached⟩ : ∃ passed : Nat, passed < 7 ∧
      (monthStart year month + passed + 3) % 7 = weekday - 1 :=
    ⟨((weekday - 1 - (monthStart year month + 3)) % 7).toNat, by omega, by omega⟩
  have shown : (Date.mk (monthStart year month + passed)).calendarDay =
      { year, month, day := passed + 1 } := calendarDay_eq (by omega) rfl
  refine ⟨_, congrArg CalendarDay.year shown, congrArg CalendarDay.month shown, ?_⟩
  simp only [Date.weekday]
  omega

end Date

namespace WallTime

/-- Every day has every minute of every hour. -/
theorem exists_minute (date : Date) {hour minute : Nat} (in_day : hour < 24)
    (in_hour : minute < 60) :
    ∃ time : WallTime, time.IsWholeMinute ∧ time.date = date ∧ time.hour = hour ∧
      time.minute = minute := by
  refine ⟨{ date, secondOfDay := 3600 * hour + 60 * minute, nanos := 0 }, ⟨?_, rfl⟩, rfl, ?_, ?_⟩
  · simp only [second]
    omega
  · simp only [WallTime.hour]
    omega
  · simp only [WallTime.minute]
    omega

end WallTime

/-- A constraint on a domain allows some number of it. -/
theorem Constraint.exists_allowed {constraint : Constraint} {domain : Domain}
    (within : constraint.Within domain) (some_number : domain.least ≤ domain.greatest) :
    ∃ n, constraint.allows n = true ∧ domain.Allows n := by
  cases constraint with
  | any => exact ⟨domain.least, rfl, le_refl _, some_number⟩
  | only set =>
    obtain ⟨n, member⟩ := List.exists_mem_of_ne_nil _ set.nonempty
    exact ⟨n, (allows_only set n).mpr member, within n member⟩

namespace Pattern

variable {pattern : Pattern}

/-! ## Days asked for -/

/-- A pattern asks for some day of some year: by a day of the week, by any day of the month, or by a
day that one of its months has in the years in which it is longest. -/
def AsksForADay (pattern : Pattern) : Prop :=
  pattern.weekDays.isOnly = true ∨ pattern.monthDays.isAny = true ∨
    ∃ month day, pattern.months.allows month = true ∧ pattern.monthDays.allows day = true ∧
      1 ≤ day ∧ day ≤ longestMonth month

/-- Where the days of the week are free, the day of the month decides. -/
theorem dayMatches_of_free_week (free : pattern.weekDays = .any) (day weekday : Nat) :
    pattern.dayMatches day weekday = pattern.monthDays.allows day := by
  rw [dayMatches, free]
  cases pattern.monthDays <;> exact Bool.and_true _

/-- Where the days of the week are limited, one of them is enough. -/
theorem dayMatches_of_weekday {weekDays : ValueSet} (limited : pattern.weekDays = .only weekDays)
    (day : Nat) {weekday : Nat} (member : weekday ∈ weekDays) :
    pattern.dayMatches day weekday = true := by
  have contained := (weekDays.contains_iff weekday).mpr member
  rw [dayMatches, limited]
  cases pattern.monthDays with
  | any => exact contained
  | only monthDays =>
    show (monthDays.contains day || weekDays.contains weekday) = true
    rw [contained, Bool.or_true]

/-- **A pattern that asks for a day has one within eight years of any year.** -/
theorem AsksForADay.exists_date (asks : pattern.AsksForADay) (domains : pattern.InDomains)
    (year : Int) :
    ∃ date : Date, year < date.year ∧ date.year ≤ year + 8 ∧
      pattern.monthMatches date.month = true ∧
        pattern.dayMatches date.day date.weekday = true := by
  obtain ⟨anyMonth, month_allowed, month_domain⟩ :=
    Constraint.exists_allowed domains.months (by decide)
  cases week : pattern.weekDays with
  | only weekDays =>
    obtain ⟨weekday, member⟩ := List.exists_mem_of_ne_nil _ weekDays.nonempty
    have week_domain := domains.weekDays
    rw [week] at week_domain
    obtain ⟨from_monday, to_sunday⟩ := week_domain weekday member
    obtain ⟨date, same_year, same_month, same_weekday⟩ := Date.exists_weekday (year + 1)
      month_domain.1 month_domain.2 from_monday to_sunday
    refine ⟨date, by omega, by omega, same_month ▸ month_allowed, ?_⟩
    rw [same_weekday]
    exact dayMatches_of_weekday week date.day member
  | any =>
    obtain ⟨month, day, allowed, day_allowed, from_first, to_last⟩ : ∃ month day,
        pattern.months.allows month = true ∧ pattern.monthDays.allows day = true ∧
          1 ≤ day ∧ day ≤ longestMonth month := by
      rcases asks with limited | free | some_day
      · rw [week] at limited
        cases limited
      · refine ⟨anyMonth, 1, month_allowed, ?_, le_refl 1, ?_⟩
        · cases month_days : pattern.monthDays with
          | any => rfl
          | only set =>
            rw [month_days] at free
            cases free
        · have long := four_weeks_le_monthLength 2000 month_domain.1 month_domain.2
          have longer := monthLength_le_longestMonth 2000 anyMonth
          omega
      · exact some_day
    obtain ⟨leap, after, soon, is_leap⟩ := exists_leap_year year
    rw [← monthLength_of_isLeap is_leap] at to_last
    obtain ⟨date, rfl, rfl, rfl⟩ := Date.exists_day from_first to_last
    exact ⟨date, after, soon, allowed, (dayMatches_of_free_week week _ _).trans day_allowed⟩

/-- A pattern that asks for a day has a minute within eight years of any year. -/
theorem AsksForADay.exists_minute (asks : pattern.AsksForADay) (domains : pattern.InDomains)
    (year : Int) :
    ∃ minute : WallTime, minute.IsWholeMinute ∧ pattern.matchesAt minute = true ∧
      year < minute.year ∧ minute.year ≤ year + 8 := by
  obtain ⟨date, after, soon, month, day⟩ := asks.exists_date domains year
  obtain ⟨hour, hour_allowed, hour_domain⟩ :=
    Constraint.exists_allowed domains.hours (by decide)
  obtain ⟨minute, minute_allowed, minute_domain⟩ :=
    Constraint.exists_allowed domains.minutes (by decide)
  obtain ⟨time, whole, rfl, rfl, rfl⟩ := WallTime.exists_minute date
    (Nat.lt_succ_of_le hour_domain.2) (Nat.lt_succ_of_le minute_domain.2)
  exact ⟨time, whole, (pattern.matchesAt_iff time).mpr ⟨month, day, hour_allowed, minute_allowed⟩,
    after, soon⟩

/-- A pattern that some reading matches asks for the day of the reading. -/
theorem asksForADay_of_matchesAt {time : WallTime} (matching : pattern.matchesAt time = true) :
    pattern.AsksForADay := by
  obtain ⟨month, day, -, -⟩ := (pattern.matchesAt_iff time).mp matching
  cases week : pattern.weekDays with
  | only weekDays => exact .inl (by rw [week]; rfl)
  | any =>
    rw [dayMatches_of_free_week week] at day
    exact .inr (.inr ⟨time.date.month, time.date.day, month, day, time.date.one_le_day,
      time.date.day_le.trans (monthLength_le_longestMonth _ _)⟩)

end Pattern

namespace Search

/-! ## Searches without a stop -/

/-- When a minute is ahead, a match is drawn, and not a later one. -/
theorem exists_next_le_of_mem_upcoming {search : Search} (sound : search.Sound) {minute : WallTime}
    (ahead : minute ∈ search.upcoming) :
    ∃ found, search.next.1 = some found ∧ found ≤ minute := by
  have ascending := search.upcoming_ascending
  have outcome := (next_upcoming sound).2
  cases drawn : search.next.1 with
  | none =>
    rw [drawn] at outcome
    rw [outcome.1] at ahead
    cases ahead
  | some found =>
    rw [drawn] at outcome
    rw [outcome] at ahead ascending
    refine ⟨found, rfl, ?_⟩
    rcases List.mem_cons.mp ahead with rfl | behind
    · exact le_refl _
    · exact ((List.pairwise_cons.mp ascending).1 minute behind).le

/-- A match of a later year that is searched is ahead, where no stop is set. -/
theorem mem_matchesFrom_of_later_year {pattern : Pattern} {cursor minute : WallTime}
    (first : yearStart firstYear ≤ cursor.date.number) (whole : minute.IsWholeMinute)
    (matching : pattern.matchesAt minute = true) (after : cursor.year < minute.year)
    (in_years : minute.year ≤ yearLimit) : minute ∈ pattern.matchesFrom none cursor := by
  have later : cursor < minute := not_le.mp fun order => by
    have := year_le_year order
    omega
  refine (Pattern.mem_matchesFrom _ _ _ _).mpr
    ⟨(mem_minutesThrough yearLimit minute).mpr ⟨whole, ?_, in_years⟩, later.le, matching, nofun⟩
  have := (whole.lt_iff cursor).mp later
  have := cursor.secondOfDay_lt
  have := minute.secondOfDay_lt
  simp only [seconds] at *
  omega

/-- **An expression dries up only if it asks for no day.**  Up to eight years before the last of the
years searched, a search without a stop finds a match within eight years; when its pattern asks
for no day, it finds none at all. -/
theorem next_of_endless {expression : String} {pattern : Pattern}
    (compiled : Pattern.compile expression = .ok pattern) {cursor : WallTime}
    (whole : cursor.IsWholeMinute) (shown : cursor.InRange) (early : cursor.year < 4992) :
    let search : Search := { pattern, stop := none, cursor := some cursor }
    (pattern.AsksForADay →
        ∃ found, search.next.1 = some found ∧ found.year ≤ cursor.year + 8) ∧
      (¬ pattern.AsksForADay → search.next.1 = none) := by
  intro search
  have domains := Pattern.inDomains_of_compile compiled
  constructor
  · intro asks
    have sound : search.Sound := by
      refine ⟨domains, fun place at_place => ?_⟩
      obtain rfl := Option.some.inj at_place
      exact ⟨shown.1, fun _ => whole⟩
    obtain ⟨minute, minute_whole, matching, after, soon⟩ := asks.exists_minute domains cursor.year
    have in_years : minute.year ≤ yearLimit := by
      simp only [yearLimit]
      omega
    obtain ⟨found, drawn, not_after⟩ := exists_next_le_of_mem_upcoming sound
      (mem_matchesFrom_of_later_year shown.1 minute_whole matching after in_years)
    exact ⟨found, drawn, (year_le_year not_after).trans soon⟩
  · intro asks_for_none
    cases drawn : search.next.1 with
    | none => rfl
    | some found =>
      have matching := (matchesAt_of_next (Prod.ext drawn rfl : search.next = (some found, _))).1
      exact absurd (Pattern.asksForADay_of_matchesAt matching) asks_for_none

namespace LeapDays

/-- The first day of March 1896, the day after the last leap day of its century. -/
def march : WallTime := midnight ⟨-26968⟩

/-- Midnight on the days that no February has. -/
def thirtieth : Pattern := { pattern with monthDays := .only (.single 30) }

theorem pattern_asksForADay : pattern.AsksForADay :=
  .inr (.inr ⟨2, 29, by decide +kernel, by decide +kernel, by decide, by decide⟩)

theorem thirtieth_asksForNoDay : ¬ thirtieth.AsksForADay := by
  rintro (limited | free | ⟨month, day, month_allowed, day_allowed, -, to_last⟩)
  · cases limited
  · cases free
  · have february := (Constraint.allows_only _ month).mp month_allowed
    have last := (Constraint.allows_only _ day).mp day_allowed
    obtain rfl : month = 2 := List.mem_singleton.mp february
    obtain rfl : day = 30 := List.mem_singleton.mp last
    exact absurd to_last (by decide)

/-- From March 1896 on it takes the whole eight years to come to a leap day, and no time to find no
thirtieth of February. -/
theorem next_leapDay_1904 :
    Pattern.compile "0 0 29 FEB * *" = .ok pattern ∧
      Pattern.compile "0 0 30 FEB * *" = .ok thirtieth ∧ march.IsWholeMinute ∧ march.InRange ∧
        march.year = 1896 ∧
          (∃ found, (Search.mk pattern none (some march)).next.1 = some found ∧
            found.year ≤ 1896 + 8) ∧
            (Search.mk pattern none (some march)).next.1 = some (midnight ⟨-24048⟩) ∧
              (midnight ⟨-24048⟩).year = 1904 ∧
                (Search.mk thirtieth none (some march)).next.1 = none := by
  have compiled : Pattern.compile "0 0 29 FEB * *" = .ok pattern := by decide +kernel
  have compiled_thirtieth : Pattern.compile "0 0 30 FEB * *" = .ok thirtieth := by decide +kernel
  have whole : march.IsWholeMinute := midnight_isWholeMinute _
  have shown : march.InRange := by decide
  have year : march.year = 1896 := by decide
  have early : march.year < 4992 := by decide
  have comes := (next_of_endless compiled whole shown early).1 pattern_asksForADay
  rw [year] at comes
  exact ⟨compiled, compiled_thirtieth, whole, shown, year, comes, by decide +kernel, by decide,
    (next_of_endless compiled_thirtieth whole shown early).2 thirtieth_asksForNoDay⟩

end LeapDays

end Search

end Timetable
