import Timetable.Proofs.Days
import Timetable.Proofs.Domains
import Timetable.Proofs.Minutes
import Timetable.Proofs.NextAllowed
import Timetable.Search

/-!
# The jumps of a search

An examination accepts exactly the readings that match.  What it does not accept
it leaves by a jump to a whole minute, and nothing that matches lies between a
whole minute and the place jumped to (`Pattern.Jump.not_matchesAt`): the rest of
a month that is not asked for, a row of days that do not match, the hours or the
minutes before the next that is allowed.  A pattern within its domains never
demands an hour or a minute that no day has (`Pattern.examine_ne_stuck`).
-/

namespace Timetable

open Calendar WallTime

set_option autoImplicit false

namespace Constraint

/-- Within a domain that goes up to `greatest`, the next number is not above it either. -/
theorem nextFrom?_le_greatest {constraint : Constraint} {domain : Domain} {n m : Nat}
    (within : constraint.Within domain) (order : n ≤ domain.greatest)
    (next : constraint.nextFrom? n = some m) : m ≤ domain.greatest := by
  cases constraint with
  | any =>
    rw [nextFrom?, Option.some_inj] at next
    omega
  | only set =>
    have member := ((set.nextFrom?_eq_some_iff n m).mp next).1
    exact (within m member).2

end Constraint

namespace WallTime

theorem isWholeMinute_of_atHour? {date : Date} {hour : Nat} {reached : WallTime}
    (set : atHour? date hour = some reached) : reached.IsWholeMinute := by
  simp only [atHour?, Option.dite_none_right_eq_some, Option.some.injEq] at set
  obtain ⟨-, rfl⟩ := set
  refine ⟨?_, rfl⟩
  simp only [second]
  omega

theorem seconds_of_atHour? {date : Date} {hour : Nat} {reached : WallTime}
    (set : atHour? date hour = some reached) :
    hour < 24 ∧ reached.seconds = date.number * 86400 + 3600 * hour := by
  simp only [atHour?, Option.dite_none_right_eq_some, Option.some.injEq] at set
  obtain ⟨in_day, rfl⟩ := set
  simp only [seconds]
  omega

theorem lt_of_withMinute? {time reached : WallTime} {minute : Nat}
    (set : time.withMinute? minute = some reached) : minute < 60 := by
  simp only [withMinute?, Option.dite_none_right_eq_some] at set
  exact set.1

theorem exists_withMinute?_eq (time : WallTime) {minute : Nat} (in_hour : minute < 60) :
    ∃ reached, time.withMinute? minute = some reached ∧ reached.date = time.date ∧
      reached.nanos = time.nanos :=
  ⟨_, dif_pos in_hour, rfl, rfl⟩

theorem nanos_of_withMinute? {time reached : WallTime} {minute : Nat}
    (set : time.withMinute? minute = some reached) : reached.nanos = time.nanos := by
  simp only [withMinute?, Option.dite_none_right_eq_some, Option.some.injEq] at set
  obtain ⟨-, rfl⟩ := set
  rfl

theorem elapse?_eq_some_iff {time : WallTime} (counted : time.nanos < 1000000000) (span : Int)
    (reached : WallTime) :
    time.elapse? span = some reached ↔ (time.shift span).InRange ∧ time.shift span = reached := by
  rw [elapse?, if_pos (.inl counted), inRange?, Option.ite_none_right_eq_some, Option.some_inj]

/-- The years searched end before the range of the clocks does. -/
theorem searchStop_lt_yearStart : searchStop < yearStart (lastYear + 1) := by decide

/-- Up to a day may elapse from any reading that is searched. -/
theorem elapse?_eq_shift {time : WallTime} {span : Int} (counted : time.nanos < 1000000000)
    (first : yearStart firstYear ≤ time.date.number) (last : time.date.number < searchStop)
    (forwards : 0 ≤ span) (within_day : span ≤ 86400) :
    time.elapse? span = some (time.shift span) := by
  have := time.secondOfDay_lt
  have margin := searchStop_lt_yearStart
  refine (elapse?_eq_some_iff counted span _).mpr ⟨⟨?_, ?_⟩, rfl⟩
  · simp only [shift]
    omega
  · simp only [shift]
    omega

theorem nanos_of_elapse? {time reached : WallTime} {span : Int}
    (counted : time.nanos < 1000000000) (elapsed : time.elapse? span = some reached) :
    reached.nanos = time.nanos := by
  obtain ⟨-, rfl⟩ := (elapse?_eq_some_iff counted span reached).mp elapsed
  rfl

end WallTime

namespace Pattern

/-- A reading matches when its month, its day, its hour and its minute do. -/
theorem matchesAt_iff (pattern : Pattern) (time : WallTime) :
    pattern.matchesAt time = true ↔
      pattern.monthMatches time.date.month = true ∧
      pattern.dayMatches time.date.day time.date.weekday = true ∧
      pattern.hours.allows time.hour = true ∧ pattern.minutes.allows time.minute = true := by
  simp only [matchesAt, hourMatches, minuteMatches, Bool.and_eq_true, and_assoc]

/-! ## What is accepted -/

/-- **An examination accepts exactly what matches.** -/
theorem examine_eq_found_iff (pattern : Pattern) (time : WallTime) :
    pattern.examine time = .found ↔ pattern.matchesAt time = true := by
  have towards_ne_found (target : Option WallTime) : Step.towards target ≠ .found := by
    cases target <;> exact Step.noConfusion
  rw [matchesAt_iff, ← Constraint.nextFrom?_eq_self_iff, ← Constraint.nextFrom?_eq_self_iff]
  simp only [examine, Date.month, Date.day]
  cases month : pattern.monthMatches time.date.calendarDay.month with
  | false => simp
  | true =>
    cases day : pattern.dayMatches time.date.calendarDay.day time.date.weekday with
    | false => simp
    | true =>
      cases pattern.hours.nextFrom? time.hour with
      | none => simp
      | some hour =>
        by_cases same_hour : hour = time.hour
        · cases pattern.minutes.nextFrom? time.minute with
          | none => simp [same_hour, towards_ne_found]
          | some minute => simp [same_hour, towards_ne_found]
        · simp [same_hour, towards_ne_found]

/-! ## Days passed over -/

/-- The days counted as idle are days of the month that do not match. -/
theorem idleDays_spec (pattern : Pattern) (date : Date) (left passed : Nat)
    (within : date.day + passed + left ≤ monthLength date.year date.month + 1) :
    ∀ further, further < pattern.idleDays (date.day + passed) (date.later passed).weekday left →
      pattern.dayMatches (date.later (passed + further)).day
        (date.later (passed + further)).weekday = false := by
  induction left generalizing passed with
  | zero =>
    intro further less
    simp [idleDays] at less
  | succ left ih =>
    intro further less
    rw [idleDays] at less
    split at less
    · simp at less
    · rename_i no_match
      cases further with
      | zero =>
        have shown : (date.later passed).day = date.day + passed := by
          rw [Date.day, Date.calendarDay_later date (by omega)]
        rw [Nat.add_zero, shown]
        exact Bool.eq_false_iff.mpr no_match
      | succ further =>
        rw [Nat.add_assoc, ← Date.weekday_later_succ date passed] at less
        rw [show passed + (further + 1) = passed + 1 + further by omega]
        exact ih (passed + 1) (by omega) further (by omega)

/-- How many days behind a date, in the same month, do not match in a row. -/
def idleAfter (pattern : Pattern) (date : Date) : Nat :=
  pattern.idleDays (date.day + 1) (date.weekday % 7 + 1)
    (monthLength date.year date.month - date.day)

/-- An idle day is in the same month, does not match, and has one idle day less behind it. -/
theorem idleAfter_later {pattern : Pattern} {date : Date} {further : Nat}
    (days : pattern.idleAfter date = further + 1) :
    (date.later 1).month = date.month ∧ (date.later 1).year = date.year ∧
      pattern.dayMatches (date.later 1).day (date.later 1).weekday = false ∧
        pattern.idleAfter (date.later 1) = further := by
  rw [idleAfter] at days
  cases left : monthLength date.year date.month - date.day with
  | zero =>
    rw [left] at days
    cases days
  | succ others =>
    have weekday := date.weekday_later_one
    have within : date.day + 1 ≤ monthLength date.year date.month := by omega
    have shown := date.calendarDay_later within
    have day : (date.later 1).day = date.day + 1 := by rw [Date.day, shown]
    have month : (date.later 1).month = date.month := by rw [Date.month, shown]; rfl
    have year : (date.later 1).year = date.year := congrArg CalendarDay.year shown
    rw [left, idleDays] at days
    split_ifs at days with matching
    refine ⟨month, year, ?_, ?_⟩
    · rw [day, weekday]
      exact Bool.eq_false_iff.mpr matching
    · rw [idleAfter, day, weekday, month, year,
        show monthLength date.year date.month - (date.day + 1) = others by omega]
      exact Nat.succ.inj days

/-! ## What a jump passes over -/

theorem not_matchesAt_of_month {pattern : Pattern} {time minute : WallTime}
    (no_month : pattern.monthMatches time.date.month = false)
    (after : time.seconds ≤ minute.seconds)
    (before : minute.seconds < (midnight time.date.nextMonth).seconds) :
    pattern.matchesAt minute = false := by
  have := time.secondOfDay_lt
  have := minute.secondOfDay_lt
  simp only [seconds, midnight] at after before
  have same : minute.date.month = time.date.month :=
    Date.month_eq_of_lt_nextMonth (by omega) (by omega)
  rw [Bool.eq_false_iff, ne_eq, matchesAt_iff, same, no_month]
  simp

theorem not_matchesAt_of_day {pattern : Pattern} {time minute : WallTime}
    (no_day : pattern.dayMatches time.date.day time.date.weekday = false)
    (after : time.seconds ≤ minute.seconds)
    (before : minute.seconds <
      (midnight (time.date.later (pattern.idleAfter time.date + 1))).seconds) :
    pattern.matchesAt minute = false := by
  have := time.secondOfDay_lt
  have := minute.secondOfDay_lt
  have last := time.date.day_le
  simp only [seconds, midnight, Date.later, idleAfter] at after before
  obtain ⟨passed, later, number⟩ :=
    Date.exists_eq_later (show time.date.number ≤ minute.date.number by omega)
  have idle : pattern.dayMatches minute.date.day minute.date.weekday = false := by
    cases passed with
    | zero =>
      have same : minute.date = time.date := Date.ext (by omega)
      rw [same]
      exact no_day
    | succ passed =>
      rw [later, Nat.add_comm]
      apply idleDays_spec pattern time.date
        (monthLength time.date.year time.date.month - time.date.day) 1 (by omega)
      rw [Date.weekday_later_one]
      omega
  rw [Bool.eq_false_iff, ne_eq, matchesAt_iff, idle]
  simp

theorem not_matchesAt_of_hour {pattern : Pattern} (time : WallTime) {minute : WallTime}
    (after : time.secondOfDay ≤ minute.secondOfDay)
    (skipped : ∀ hour, pattern.hours.allows hour = true → time.hour ≤ hour → minute.hour < hour) :
    pattern.matchesAt minute = false := by
  rw [Bool.eq_false_iff, ne_eq, matchesAt_iff]
  rintro ⟨-, -, allowed, -⟩
  have := skipped minute.hour allowed (Nat.div_le_div_right after)
  omega

theorem not_matchesAt_of_minute {pattern : Pattern} (time : WallTime) {minute : WallTime}
    (after : time.minute ≤ minute.minute)
    (skipped : ∀ n, pattern.minutes.allows n = true → time.minute ≤ n → minute.minute < n) :
    pattern.matchesAt minute = false := by
  rw [Bool.eq_false_iff, ne_eq, matchesAt_iff]
  rintro ⟨-, -, -, allowed⟩
  have := skipped minute.minute allowed after
  omega

/-! ## The six jumps -/

/-- The jumps that an examination makes, each with what it is made for. -/
inductive Jump (pattern : Pattern) (time : WallTime) : WallTime → Prop where
  | month (no_month : pattern.monthMatches time.date.month = false) :
      Jump pattern time (midnight time.date.nextMonth)
  | day (no_day : pattern.dayMatches time.date.day time.date.weekday = false) :
      Jump pattern time (midnight (time.date.later (pattern.idleAfter time.date + 1)))
  | hoursOver (no_hour : pattern.hours.nextFrom? time.hour = none) :
      Jump pattern time (midnight (time.date.later 1))
  | hour {hour : Nat} {later : WallTime} (next : pattern.hours.nextFrom? time.hour = some hour)
      (set : atHour? time.date hour = some later) : Jump pattern time later
  | minutesOver {hourStart later : WallTime}
      (no_minute : pattern.minutes.nextFrom? time.minute = none)
      (set : time.withMinute? 0 = some hourStart) (elapsed : hourStart.elapse? 3600 = some later)
      (allowed : pattern.hours.allows time.hour = true) : Jump pattern time later
  | minute {minute : Nat} {later : WallTime}
      (next : pattern.minutes.nextFrom? time.minute = some minute)
      (set : time.withMinute? minute = some later) : Jump pattern time later

theorem jump_of_examine {pattern : Pattern} {time later : WallTime}
    (examined : pattern.examine time = .jump later) : Jump pattern time later := by
  simp only [examine] at examined
  split at examined
  · rename_i no_month
    cases examined
    exact .month ((Bool.not_eq_true' _).mp no_month)
  split at examined
  · rename_i no_day
    cases examined
    exact .day ((Bool.not_eq_true' _).mp no_day)
  split at examined
  · rename_i no_hour
    cases examined
    exact .hoursOver no_hour
  · rename_i hour next_hour
    split at examined
    · rw [Step.towards_eq_jump_iff] at examined
      exact .hour next_hour examined
    · rename_i same_hour
      split at examined
      · rename_i no_minute
        rw [Step.towards_eq_jump_iff, Option.bind_eq_some_iff] at examined
        obtain ⟨hourStart, set, elapsed⟩ := examined
        obtain rfl := not_not.mp same_hour
        exact .minutesOver no_minute set elapsed
          ((pattern.hours.nextFrom?_eq_self_iff time.hour).mp next_hour)
      · rename_i minute next_minute
        split at examined
        · cases examined
        · rw [Step.towards_eq_jump_iff] at examined
          exact .minute next_minute examined

/-- A jump from a whole minute arrives at one. -/
theorem Jump.isWholeMinute {pattern : Pattern} {time later : WallTime}
    (jump : Jump pattern time later) (whole : time.IsWholeMinute) : later.IsWholeMinute := by
  have sixty := whole.sixty_dvd
  have no_nanos := whole.2
  cases jump with
  | month => exact midnight_isWholeMinute _
  | day => exact midnight_isWholeMinute _
  | hoursOver => exact midnight_isWholeMinute _
  | hour next set => exact isWholeMinute_of_atHour? set
  | minutesOver no_minute set elapsed =>
    have set_seconds := seconds_of_withMinute? set
    have elapsed_seconds := seconds_of_elapse? (by omega) elapsed
    refine isWholeMinute_of_seconds (by omega) ?_
    rw [nanos_of_elapse? (by rw [nanos_of_withMinute? set]; omega) elapsed,
      nanos_of_withMinute? set]
    exact no_nanos
  | minute next set =>
    have set_seconds := seconds_of_withMinute? set
    exact isWholeMinute_of_seconds (by omega) ((nanos_of_withMinute? set).trans no_nanos)

/-- **Nothing that matches lies between a whole minute and the place jumped to.** -/
theorem Jump.not_matchesAt {pattern : Pattern} {time later minute : WallTime}
    (jump : Jump pattern time later) (whole : time.IsWholeMinute)
    (after : time.seconds ≤ minute.seconds) (before : minute.seconds < later.seconds) :
    pattern.matchesAt minute = false := by
  have shown := time.secondOfDay_eq
  have minute_shown := minute.secondOfDay_eq
  have no_second := whole.1
  have := time.secondOfDay_lt
  have := time.minute_lt
  have := minute.secondOfDay_lt
  have := minute.minute_lt
  have := minute.second_lt
  simp only [seconds] at after before
  cases jump with
  | month no_month => exact not_matchesAt_of_month no_month after before
  | day no_day => exact not_matchesAt_of_day no_day after before
  | hoursOver no_hour =>
    rw [Constraint.nextFrom?_eq_none_iff] at no_hour
    simp only [midnight, Date.later] at before
    refine not_matchesAt_of_hour time (by omega) fun hour allowed order => ?_
    have := no_hour hour allowed
    omega
  | hour next set =>
    obtain ⟨-, -, least⟩ := (Constraint.nextFrom?_eq_some_iff _ _ _).mp next
    obtain ⟨in_day, reached⟩ := seconds_of_atHour? set
    simp only [seconds] at reached
    refine not_matchesAt_of_hour time (by omega) fun hour allowed order => ?_
    have := least hour allowed order
    omega
  | minutesOver no_minute set elapsed =>
    rw [Constraint.nextFrom?_eq_none_iff] at no_minute
    have set_seconds := seconds_of_withMinute? set
    have elapsed_seconds := seconds_of_elapse? (by omega) elapsed
    simp only [seconds] at set_seconds elapsed_seconds
    refine not_matchesAt_of_minute time (by omega) fun n allowed order => ?_
    have := no_minute n allowed
    omega
  | minute next set =>
    obtain ⟨-, -, least⟩ := (Constraint.nextFrom?_eq_some_iff _ _ _).mp next
    have in_hour := lt_of_withMinute? set
    have set_seconds := seconds_of_withMinute? set
    simp only [seconds] at set_seconds
    refine not_matchesAt_of_minute time (by omega) fun n allowed order => ?_
    have := least n allowed order
    omega

/-! ## No demand beyond the clock -/

/-- **Within its domains and the range of the clocks, a pattern never demands what no day has.** -/
theorem examine_ne_stuck {pattern : Pattern} (domains : pattern.InDomains) {time : WallTime}
    (whole : time.IsWholeMinute) (first : yearStart firstYear ≤ time.date.number)
    (last : time.date.number < searchStop) : pattern.examine time ≠ .stuck := by
  intro stuck
  simp only [examine] at stuck
  split at stuck
  · cases stuck
  split at stuck
  · cases stuck
  split at stuck
  · cases stuck
  · rename_i hour next_hour
    have in_day : hour ≤ 23 :=
      Constraint.nextFrom?_le_greatest domains.hours (Nat.le_of_lt_succ time.hour_lt) next_hour
    split at stuck
    · rw [atHour?, dif_pos (by omega)] at stuck
      cases stuck
    · split at stuck
      · obtain ⟨hourStart, set, same_date, same_nanos⟩ :=
          exists_withMinute?_eq time (show 0 < 60 by omega)
        have counted : hourStart.nanos < 1000000000 := by
          rw [same_nanos, whole.2]
          omega
        rw [← same_date] at first last
        rw [set, Option.bind_some, elapse?_eq_shift counted first last (by omega) (by omega)]
          at stuck
        cases stuck
      · rename_i minute next_minute
        have in_hour : minute ≤ 59 :=
          Constraint.nextFrom?_le_greatest domains.minutes (Nat.le_of_lt_succ time.minute_lt)
            next_minute
        split at stuck
        · cases stuck
        · obtain ⟨reached, set, -⟩ := exists_withMinute?_eq time (show minute < 60 by omega)
          rw [set] at stuck
          cases stuck

end Pattern

end Timetable
