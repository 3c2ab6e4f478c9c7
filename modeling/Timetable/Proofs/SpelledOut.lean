import Timetable.Proofs.Recurrence

/-!
# Stars that are spelled out

A star leaves a field free, and the list of all numbers of the field limits it to them: the
two are different constraints (`Constraint.spelledOut`).  The clock and the calendar show
nothing but numbers of the domains, and for these both say the same.  So spelling the
minutes, the hours or the months out changes nothing about a pattern.

The days are otherwise, since two limited day fields are alternatives.  Spelling a free day
field out beside a limited one loses the limit: every day matches from then on, as if both
were free (`Pattern.LosesDayLimit`).  Beside another free one it changes nothing.

Two patterns that say the same of all numbers of the domains are `Pattern.Alike`.  A search
asks for nothing else, so searches for such patterns give the same answers to all calls
(`Search.Alike.run`).
-/

namespace Timetable

open Calendar WallTime

set_option autoImplicit false

/-! ## What is shown -/

namespace Calendar

theorem length_monthLengths (leap : Bool) : (monthLengths leap).length = 12 := by
  cases leap <;> rfl

/-- No month has more than 31 days. -/
theorem monthLength_le (year : Int) (month : Nat) : monthLength year month ≤ 31 := by
  have all : ∀ leap, ∀ length ∈ monthLengths leap, length ≤ 31 := by decide
  rw [monthLength]
  split
  · exact Nat.zero_le 31
  · rw [List.getD_eq_getElem?_getD]
    cases found : (monthLengths (isLeap year))[month - 1]? with
    | none => exact Nat.zero_le 31
    | some length => exact all _ length (List.mem_of_getElem? found)

end Calendar

namespace Date

theorem allows_month (date : Date) : Field.month.domain.Allows date.month := by
  have placed : (place (monthLengths (isLeap date.year)) date.dayOfYear).1 < 12 := by
    rw [← length_monthLengths (isLeap date.year)]
    exact (place_lt date.dayOfYear_lt).1
  exact ⟨date.one_le_month, placed⟩

theorem allows_day (date : Date) : Field.monthDay.domain.Allows date.day :=
  ⟨date.one_le_day, date.day_le.trans (monthLength_le date.year date.month)⟩

theorem allows_weekday (date : Date) : Field.weekDay.domain.Allows date.weekday := by
  show 1 ≤ date.weekday ∧ date.weekday ≤ 7
  simp only [weekday]
  omega

end Date

namespace WallTime

theorem allows_hour (time : WallTime) : Field.hour.domain.Allows time.hour :=
  ⟨Nat.zero_le _, Nat.le_of_lt_succ time.hour_lt⟩

theorem allows_minute (time : WallTime) : Field.minute.domain.Allows time.minute :=
  ⟨Nat.zero_le _, Nat.le_of_lt_succ time.minute_lt⟩

end WallTime

/-! ## Every number of a field -/

namespace Field

/-- The set of all numbers of a field. -/
def everyNumber (field : Field) : ValueSet where
  members :=
    (List.range' field.domain.least (field.domain.greatest + 1 - field.domain.least)).toArray
  ascending := List.pairwise_lt_range'
  nonempty := by cases field <;> exact List.cons_ne_nil _ _

theorem mem_everyNumber (field : Field) (n : Nat) :
    n ∈ field.everyNumber ↔ field.domain.Allows n := by
  show n ∈ List.range' _ _ ↔ _
  rw [List.mem_range'_1, Domain.Allows]
  omega

/-- A star with the step one spells all numbers out, which the star alone does not. -/
theorem readConstraint_everyNumber (field : Field) :
    field.readConstraint ['*', '/', '1'] = .ok (.only field.everyNumber) ∧
      field.readConstraint ['*'] = .ok .any := by
  cases field <;> exact ⟨by decide +kernel, rfl⟩

end Field

namespace Constraint

/-- The constraint on a field with all its numbers in place of a star, if the field is among those
that are to be spelled out. -/
def spelledOut (fields : List Field) (field : Field) : Constraint → Constraint
  | any => if field ∈ fields then only field.everyNumber else any
  | only set => only set

variable {fields : List Field} {field : Field} {constraint : Constraint} {n : Nat}

/-- Of the numbers of its domain a constraint allows the same when it is spelled out. -/
theorem allows_spelledOut (constraint : Constraint) (fields : List Field)
    (shown : field.domain.Allows n) :
    (constraint.spelledOut fields field).allows n = constraint.allows n := by
  cases constraint with
  | only set => rfl
  | any =>
    rw [spelledOut]
    split_ifs
    · exact (allows_only _ n).mpr ((field.mem_everyNumber n).mpr shown)
    · rfl

/-- A limited field, or one that is not listed, stays as it is. -/
theorem spelledOut_eq_self (unlisted : constraint = .any → field ∉ fields) :
    constraint.spelledOut fields field = constraint := by
  cases constraint with
  | only set => rfl
  | any => rw [spelledOut, if_neg (unlisted rfl)]

/-- From a number of its domain on, the next number that will do is the same. -/
theorem nextFrom?_spelledOut (constraint : Constraint) (fields : List Field)
    (shown : field.domain.Allows n) :
    (constraint.spelledOut fields field).nextFrom? n = constraint.nextFrom? n := by
  cases constraint with
  | only set => rfl
  | any =>
    exact (nextFrom?_eq_self_iff _ n).mpr (allows_spelledOut .any fields shown)

end Constraint

/-! ## Patterns that are alike -/

namespace Pattern

variable {pattern other : Pattern}

/-- Two patterns say the same of all numbers of the domains. -/
structure Alike (other pattern : Pattern) : Prop where
  minutes : ∀ n, Field.minute.domain.Allows n →
    other.minutes.nextFrom? n = pattern.minutes.nextFrom? n
  hours : ∀ n, Field.hour.domain.Allows n → other.hours.nextFrom? n = pattern.hours.nextFrom? n
  months : ∀ n, Field.month.domain.Allows n → other.monthMatches n = pattern.monthMatches n
  days : ∀ day weekday, Field.monthDay.domain.Allows day → Field.weekDay.domain.Allows weekday →
    other.dayMatches day weekday = pattern.dayMatches day weekday

namespace Alike

theorem day (alike : other.Alike pattern) (date : Date) :
    other.dayMatches date.day date.weekday = pattern.dayMatches date.day date.weekday :=
  alike.days _ _ date.allows_day date.allows_weekday

/-- The same days of a month are idle. -/
theorem idleDays (alike : other.Alike pattern) {day weekday left : Nat} (first : 1 ≤ day)
    (week : Field.weekDay.domain.Allows weekday) (last : day + left ≤ 32) :
    other.idleDays day weekday left = pattern.idleDays day weekday left := by
  induction left generalizing day weekday with
  | zero => rfl
  | succ left ih =>
    have next_week : Field.weekDay.domain.Allows (weekday % 7 + 1) := by
      show 1 ≤ weekday % 7 + 1 ∧ weekday % 7 + 1 ≤ 7
      omega
    have shown : Field.monthDay.domain.Allows day := by
      show 1 ≤ day ∧ day ≤ 31
      omega
    rw [Pattern.idleDays, Pattern.idleDays, alike.days day weekday shown week,
      ih (by omega) next_week (by omega)]

/-- **An examination comes to the same.** -/
theorem examine (alike : other.Alike pattern) (time : WallTime) :
    other.examine time = pattern.examine time := by
  have next_weekday : Field.weekDay.domain.Allows (time.date.weekday % 7 + 1) := by
    rw [← Date.weekday_later_one]
    exact (time.date.later 1).allows_weekday
  have within : time.date.day + 1 +
      (monthLength time.date.year time.date.month - time.date.day) ≤ 32 := by
    have := time.date.day_le
    have := monthLength_le time.date.year time.date.month
    omega
  have year : time.date.calendarDay.year = time.date.year := rfl
  have month := alike.months _ time.date.allows_month
  have day := alike.day time.date
  have idle := alike.idleDays (Nat.le_add_left 1 time.date.day) next_weekday within
  simp only [Date.month, Date.day] at month day idle
  simp only [Pattern.examine, year, month, day, idle, alike.hours _ time.allows_hour,
    alike.minutes _ time.allows_minute]

/-- **The same readings match.** -/
theorem matchesAt (alike : other.Alike pattern) (time : WallTime) :
    other.matchesAt time = pattern.matchesAt time := by
  rw [Bool.eq_iff_iff, ← examine_eq_found_iff, ← examine_eq_found_iff, alike.examine]

/-- The same reading is found. -/
theorem find? (alike : other.Alike pattern) (stop : Option WallTime) (time : WallTime) :
    other.find? stop time = pattern.find? stop time := by
  fun_induction Pattern.find? pattern stop time with
  | case1 time past => rw [Pattern.find?, if_pos past]
  | case2 time not_past beyond => rw [Pattern.find?, if_neg not_past, dif_pos beyond]
  | case3 time not_past in_time accepted =>
    rw [Pattern.find?, if_neg not_past, dif_neg in_time, alike.examine, accepted]
  | case4 time not_past in_time stuck =>
    rw [Pattern.find?, if_neg not_past, dif_neg in_time, alike.examine, stuck]
  | case5 time not_past in_time later examined ih =>
    rw [Pattern.find?, if_neg not_past, dif_neg in_time, alike.examine, examined]
    exact ih

end Alike

end Pattern

namespace Search

/-- Two searches that are at the same place, for patterns that are alike. -/
structure Alike (other search : Search) : Prop where
  pattern : other.pattern.Alike search.pattern
  stop : other.stop = search.stop
  cursor : other.cursor = search.cursor

namespace Alike

variable {search other : Search}

/-- **The same match is drawn**, and the searches behind it are alike. -/
theorem next (alike : other.Alike search) :
    other.next.1 = search.next.1 ∧ other.next.2.Alike search.next.2 := by
  have found : other.cursor.bind (other.pattern.find? other.stop) =
      search.cursor.bind (search.pattern.find? search.stop) := by
    rw [alike.cursor, alike.stop]
    exact congrArg search.cursor.bind (funext fun time => alike.pattern.find? search.stop time)
  rw [Search.next, Search.next, found]
  split
  · exact ⟨rfl, alike.pattern, alike.stop, rfl⟩
  · exact ⟨rfl, alike.pattern, alike.stop, rfl⟩

theorem skipTo (alike : other.Alike search) (time : WallTime) :
    (other.skipTo time).Alike (search.skipTo time) :=
  ⟨alike.pattern, alike.stop, congrArg (Option.map (max · time)) alike.cursor⟩

/-- **All calls have the same answers.** -/
theorem run (alike : other.Alike search) (calls : List Call) :
    (other.run calls).1 = (search.run calls).1 := by
  induction calls generalizing other search with
  | nil => rfl
  | cons call calls ih =>
    cases call with
    | next =>
      obtain ⟨same, rest⟩ := alike.next
      show other.next.1 :: (other.next.2.run calls).1 = search.next.1 :: (search.next.2.run calls).1
      rw [same, ih rest]
    | skipTo time => exact ih (alike.skipTo time)

end Alike

theorem alike_ofWindow {pattern other : Pattern} (alike : other.Alike pattern) (window : Window) :
    (ofWindow other window).Alike (ofWindow pattern window) := ⟨alike, rfl, rfl⟩

end Search

/-! ## Patterns that are spelled out -/

namespace Pattern

/-- The pattern with the free ones among the fields of a list spelled out. -/
def spelledOut (pattern : Pattern) (fields : List Field) : Pattern where
  minutes := pattern.minutes.spelledOut fields .minute
  hours := pattern.hours.spelledOut fields .hour
  monthDays := pattern.monthDays.spelledOut fields .monthDay
  months := pattern.months.spelledOut fields .month
  weekDays := pattern.weekDays.spelledOut fields .weekDay
  year := pattern.year

/-- A free day field is to be spelled out beside a limited one. -/
def LosesDayLimit (pattern : Pattern) (fields : List Field) : Prop :=
  (.monthDay ∈ fields ∧ pattern.monthDays = .any ∧ pattern.weekDays ≠ .any) ∨
    (.weekDay ∈ fields ∧ pattern.weekDays = .any ∧ pattern.monthDays ≠ .any)

/-- The pattern with both day fields free. -/
def onAnyDay (pattern : Pattern) : Pattern :=
  { pattern with monthDays := .any, weekDays := .any }

variable {pattern : Pattern} {fields : List Field} {day weekday : Nat}

/-- A day matches that both day fields allow. -/
theorem dayMatches_of_allows (day_allowed : pattern.monthDays.allows day = true)
    (weekday_allowed : pattern.weekDays.allows weekday = true) :
    pattern.dayMatches day weekday = true := by
  rw [dayMatches]
  split
  · rename_i monthDays weekDays limited week_limited
    rw [limited] at day_allowed
    exact Bool.or_eq_true_iff.mpr (.inl day_allowed)
  · exact Bool.and_eq_true_iff.mpr ⟨day_allowed, weekday_allowed⟩

/-- Unless a limit is lost, the same days match. -/
theorem dayMatches_spelledOut (kept : ¬ pattern.LosesDayLimit fields)
    (day_shown : Field.monthDay.domain.Allows day)
    (weekday_shown : Field.weekDay.domain.Allows weekday) :
    (pattern.spelledOut fields).dayMatches day weekday = pattern.dayMatches day weekday := by
  have day_allowed := pattern.monthDays.allows_spelledOut fields day_shown
  have weekday_allowed := pattern.weekDays.allows_spelledOut fields weekday_shown
  by_cases free : pattern.monthDays = .any ∧ pattern.weekDays = .any
  · have here : pattern.monthDays.allows day = true := by rw [free.1]; rfl
    have week : pattern.weekDays.allows weekday = true := by rw [free.2]; rfl
    rw [dayMatches_of_allows (day_allowed.trans here) (weekday_allowed.trans week),
      dayMatches_of_allows here week]
  · have month_days : pattern.monthDays.spelledOut fields .monthDay = pattern.monthDays :=
      Constraint.spelledOut_eq_self fun month_free member =>
        kept (.inl ⟨member, month_free, fun week_free => free ⟨month_free, week_free⟩⟩)
    have week_days : pattern.weekDays.spelledOut fields .weekDay = pattern.weekDays :=
      Constraint.spelledOut_eq_self fun week_free member =>
        kept (.inr ⟨member, week_free, fun month_free => free ⟨month_free, week_free⟩⟩)
    simp only [dayMatches, spelledOut, month_days, week_days]

/-- Where a limit is lost, every day matches. -/
theorem dayMatches_of_losesDayLimit (lost : pattern.LosesDayLimit fields)
    (day_shown : Field.monthDay.domain.Allows day)
    (weekday_shown : Field.weekDay.domain.Allows weekday) :
    (pattern.spelledOut fields).dayMatches day weekday = true := by
  rcases lost with ⟨member, free, limited⟩ | ⟨member, free, -⟩
  · have month_days : (pattern.spelledOut fields).monthDays = .only Field.monthDay.everyNumber := by
      simp only [spelledOut, free, Constraint.spelledOut, if_pos member]
    have day_member := (Field.mem_everyNumber .monthDay day).mpr day_shown
    cases week : pattern.weekDays with
    | any => exact absurd week limited
    | only weekDays =>
      have week_days : (pattern.spelledOut fields).weekDays = .only weekDays := by
        simp only [spelledOut, week, Constraint.spelledOut]
      rw [dayMatches, month_days, week_days]
      exact Bool.or_eq_true_iff.mpr (.inl ((ValueSet.contains_iff _ day).mpr day_member))
  · have week_days : (pattern.spelledOut fields).weekDays = .only Field.weekDay.everyNumber := by
      simp only [spelledOut, free, Constraint.spelledOut, if_pos member]
    exact dayMatches_of_weekday week_days day ((Field.mem_everyNumber .weekDay weekday).mpr
      weekday_shown)

/-- Unless a limit is lost, a pattern that is spelled out is like itself. -/
theorem alike_spelledOut (kept : ¬ pattern.LosesDayLimit fields) :
    (pattern.spelledOut fields).Alike pattern where
  minutes _ shown := pattern.minutes.nextFrom?_spelledOut fields shown
  hours _ shown := pattern.hours.nextFrom?_spelledOut fields shown
  months _ shown := pattern.months.allows_spelledOut fields shown
  days _ _ day_shown weekday_shown := dayMatches_spelledOut kept day_shown weekday_shown

/-- Where a limit is lost, it is like the pattern for any day. -/
theorem alike_onAnyDay (lost : pattern.LosesDayLimit fields) :
    (pattern.spelledOut fields).Alike pattern.onAnyDay where
  minutes _ shown := pattern.minutes.nextFrom?_spelledOut fields shown
  hours _ shown := pattern.hours.nextFrom?_spelledOut fields shown
  months _ shown := pattern.months.allows_spelledOut fields shown
  days _ _ day_shown weekday_shown := dayMatches_of_losesDayLimit lost day_shown weekday_shown

/-- Two patterns that nobody can tell apart: the same readings match, and searches of a window give
the same answers to all calls. -/
structure Indistinct (other pattern : Pattern) : Prop where
  matchesAt : ∀ time, other.matchesAt time = pattern.matchesAt time
  answers : ∀ window calls, ((Search.ofWindow other window).run calls).1 =
    ((Search.ofWindow pattern window).run calls).1

theorem Alike.indistinct {other : Pattern} (alike : other.Alike pattern) :
    other.Indistinct pattern where
  matchesAt := alike.matchesAt
  answers window := (Search.alike_ofWindow alike window).run

/-- **A star says the same as the list of all numbers, save for the days.**  Whichever stars of a
pattern are spelled out, it matches the same readings and has the same sequence in every window,
unless one of them is a free day field beside a limited one.  Then every day matches, and the
pattern is that for any day. -/
theorem spelledOut_indistinct (pattern : Pattern) (fields : List Field) :
    (¬ pattern.LosesDayLimit fields → (pattern.spelledOut fields).Indistinct pattern) ∧
      (pattern.LosesDayLimit fields →
        (∀ date : Date, (pattern.spelledOut fields).dayMatches date.day date.weekday = true) ∧
          (pattern.spelledOut fields).Indistinct pattern.onAnyDay) := by
  refine ⟨fun kept => (alike_spelledOut kept).indistinct, fun lost => ⟨fun date => ?_, ?_⟩⟩
  · exact dayMatches_of_losesDayLimit lost date.allows_day date.allows_weekday
  · exact (alike_onAnyDay lost).indistinct

/-! ### A day of the week -/

namespace Mondays

/-- Nine o'clock on Mondays. -/
def nineOClock : Pattern where
  minutes := .only (.single 0)
  hours := .only (.single 9)
  monthDays := .any
  months := .any
  weekDays := .only (.single 1)
  year := "*"

/-- Nine o'clock on Tuesday, 2 January 2024. -/
def tuesday : WallTime := (midnight ⟨19724⟩).shift 32400

/-- With the months spelled out Mondays stay Mondays, and with the days of the month a Tuesday
matches. -/
theorem tuesday_with_days_spelledOut :
    Pattern.compile "0 9 * * MON *" = .ok nineOClock ∧
      Pattern.compile "0 9 * 1-12 MON *" = .ok (nineOClock.spelledOut [.month]) ∧
        (nineOClock.spelledOut [.month]).Indistinct nineOClock ∧
          nineOClock.matchesAt tuesday = false ∧
          Pattern.compile "0 9 1-31 * MON *" = .ok (nineOClock.spelledOut [.monthDay]) ∧
            (nineOClock.spelledOut [.monthDay]).Indistinct nineOClock.onAnyDay ∧
              (nineOClock.spelledOut [.monthDay]).matchesAt tuesday = true := by
  have kept : ¬ nineOClock.LosesDayLimit [.month] := by
    rintro (⟨listed, -⟩ | ⟨listed, -⟩) <;> exact absurd listed (by decide)
  have lost : nineOClock.LosesDayLimit [.monthDay] := .inl ⟨by decide, rfl, by decide⟩
  obtain ⟨-, any_day⟩ := (spelledOut_indistinct nineOClock [.monthDay]).2 lost
  exact ⟨by decide +kernel, by decide +kernel, (spelledOut_indistinct nineOClock [.month]).1 kept,
    by decide +kernel, by decide +kernel, any_day,
    (any_day.matchesAt tuesday).trans (by decide +kernel)⟩

end Mondays

end Pattern

end Timetable
