import Timetable.Proofs.Scan

/-!
# Runs of a search

Whoever holds a search may draw the next match or move the search forwards, in any
order.  A call changes what is ahead in one way: a match drawn is taken away with
everything before it, and moving forwards takes away what lies before the place
moved to.  So after any run of calls the matches ahead are the minutes of the
window that are later than every match drawn and not before any place moved to,
and the next answer is the least of them (`Search.next_isLeast`).
-/

namespace Timetable

open Calendar WallTime

set_option autoImplicit false

namespace WallTime

theorem floorMinute_isWholeMinute (time : WallTime) : time.floorMinute.IsWholeMinute := by
  refine ⟨?_, rfl⟩
  simp only [second, floorMinute]
  omega

/-- Whole minutes after the minute of a reading are those after the reading, unless the reading is
that minute. -/
theorem floorMinute_lt_iff {time minute : WallTime} (not_whole : ¬ time.IsWholeMinute)
    (whole : minute.IsWholeMinute) : time.floorMinute < minute ↔ time ≤ minute := by
  have sixty := whole.sixty_dvd
  have floor_seconds : time.floorMinute.seconds = time.seconds - time.second := by
    simp only [seconds, floorMinute, second]
    omega
  have passed : time.seconds % 60 = time.second := by
    simp only [seconds, second]
    omega
  simp only [IsWholeMinute] at not_whole
  rw [whole.lt_iff, WallTime.le_iff, whole.2, floor_seconds]
  omega

end WallTime

namespace Search

/-! ## The beginning of a window -/

/-- The first minute of a window is the first whole minute from its start on; where no clock can
show one, the window begins behind everything that is searched. -/
theorem firstMinute?_spec {window : Window}
    (first : yearStart firstYear ≤ window.start.date.number) :
    match window.firstMinute? with
    | none => searchStop ≤ window.start.date.number
    | some reached => Pattern.Examinable reached ∧
        ∀ minute : WallTime, minute.IsWholeMinute → (reached ≤ minute ↔ window.start ≤ minute) := by
  rw [Window.firstMinute?]
  split_ifs with start_whole
  · exact ⟨⟨first, fun _ => start_whole⟩, fun _ _ => Iff.rfl⟩
  · have floor_whole := floorMinute_isWholeMinute window.start
    have no_nanos := floor_whole.2
    by_cases shown : (window.start.floorMinute.shift 60).InRange
    · rw [(elapse?_eq_some_iff (by omega) 60 _).mpr ⟨shown, rfl⟩]
      refine ⟨⟨shown.1, fun _ => nextMinute_isWholeMinute floor_whole⟩, ?_⟩
      intro minute whole
      exact (nextMinute_le_iff floor_whole whole).trans (floorMinute_lt_iff start_whole whole)
    · have beyond : window.start.floorMinute.elapse? 60 = none := by
        rw [elapse?, if_pos (.inl (by omega)), inRange?, if_neg shown]
      rw [beyond]
      have margin := searchStop_lt_yearStart
      have := window.start.secondOfDay_lt
      simp only [InRange, shift, floorMinute] at shown
      show searchStop ≤ window.start.date.number
      omega

theorem examinable_ofWindow (pattern : Pattern) {window : Window}
    (first : yearStart firstYear ≤ window.start.date.number) :
    ∀ cursor ∈ (Search.ofWindow pattern window).cursor, Pattern.Examinable cursor := by
  intro cursor at_cursor
  have spec := firstMinute?_spec first
  rw [show window.firstMinute? = some cursor from at_cursor] at spec
  exact spec.1

theorem Sound.ofWindow {pattern : Pattern} (domains : pattern.InDomains) {window : Window}
    (first : yearStart firstYear ≤ window.start.date.number) :
    (Search.ofWindow pattern window).Sound := ⟨domains, examinable_ofWindow pattern first⟩

/-- The search of a window has the whole scan from its start ahead. -/
theorem upcoming_ofWindow (pattern : Pattern) {window : Window}
    (first : yearStart firstYear ≤ window.start.date.number) :
    (Search.ofWindow pattern window).upcoming = pattern.matchesFrom window.stop window.start := by
  have spec := firstMinute?_spec first
  cases reached : window.firstMinute? with
  | none =>
    rw [reached] at spec
    rw [pattern.matchesFrom_of_searchStop_le window.stop spec, upcoming, Search.ofWindow, reached]
  | some cursor =>
    rw [reached] at spec
    rw [upcoming, Search.ofWindow, reached]
    show pattern.matchesFrom window.stop cursor = _
    rw [Pattern.matchesFrom, Pattern.matchesFrom]
    apply List.filter_congr
    intro minute scanned
    have whole := ((mem_minutesThrough yearLimit minute).mp scanned).1
    rw [decide_eq_decide, spec.2 minute whole]

/-! ## Runs of calls -/

/-- A call on a search. -/
inductive Call where
  /-- The next match is drawn. -/
  | next
  /-- The search is moved forwards to a reading. -/
  | skipTo (time : WallTime)

/-- The answers to a list of calls that draw, and the search behind them. -/
def run (search : Search) : List Call → List (Option WallTime) × Search
  | [] => ([], search)
  | .next :: calls =>
    let (answers, last) := run search.next.2 calls
    (search.next.1 :: answers, last)
  | .skipTo time :: calls => run (search.skipTo time) calls

theorem Sound.run {search : Search} (sound : search.Sound) {calls : List Call}
    (whole : ∀ time, .skipTo time ∈ calls → time.IsWholeMinute) : (search.run calls).2.Sound := by
  induction calls generalizing search with
  | nil => exact sound
  | cons call calls ih =>
    have rest_whole : ∀ time, .skipTo time ∈ calls → time.IsWholeMinute := fun time member =>
      whole time (List.mem_cons_of_mem _ member)
    cases call with
    | next => exact ih (next_upcoming sound).1 rest_whole
    | skipTo time => exact ih (sound.skipTo fun _ => whole time List.mem_cons_self) rest_whole

/-- **What is ahead after a run is what was ahead before, later than every match drawn and not
before any place moved to.** -/
theorem mem_upcoming_run {search : Search} (sound : search.Sound) {calls : List Call}
    (whole : ∀ time, .skipTo time ∈ calls → time.IsWholeMinute) (minute : WallTime) :
    minute ∈ (search.run calls).2.upcoming ↔
      minute ∈ search.upcoming ∧
        (∀ earlier, some earlier ∈ (search.run calls).1 → earlier < minute) ∧
        ∀ time, .skipTo time ∈ calls → time ≤ minute := by
  induction calls generalizing search with
  | nil => simp [run]
  | cons call calls ih =>
    have rest_whole : ∀ time, .skipTo time ∈ calls → time.IsWholeMinute := fun time member =>
      whole time (List.mem_cons_of_mem _ member)
    cases call with
    | next =>
      obtain ⟨next_sound, outcome⟩ := next_upcoming sound
      have ascending := search.upcoming_ascending
      show minute ∈ (search.next.2.run calls).2.upcoming ↔ minute ∈ search.upcoming ∧
        (∀ earlier, some earlier ∈ search.next.1 :: (search.next.2.run calls).1 →
            earlier < minute) ∧
          ∀ time, Call.skipTo time ∈ Call.next :: calls → time ≤ minute
      rw [ih next_sound rest_whole]
      cases drawn : search.next.1 with
      | none =>
        rw [drawn] at outcome
        rw [outcome.1, upcoming, outcome.2]
        simp
      | some found =>
        rw [drawn] at outcome
        rw [outcome] at ascending ⊢
        have behind := (List.pairwise_cons.mp ascending).1
        constructor
        · rintro ⟨member, after, not_before⟩
          refine ⟨List.mem_cons_of_mem _ member, ?_, ?_⟩
          · intro earlier earlier_drawn
            rcases List.mem_cons.mp earlier_drawn with same | later_drawn
            · exact Option.some.inj same ▸ behind minute member
            · exact after earlier later_drawn
          · intro time skipped
            rcases List.mem_cons.mp skipped with other | skipped
            · cases other
            · exact not_before time skipped
        · rintro ⟨member, after, not_before⟩
          have later := after found List.mem_cons_self
          refine ⟨?_, ?_, ?_⟩
          · exact (List.mem_cons.mp member).resolve_left (ne_of_gt later)
          · exact fun earlier drawn => after earlier (List.mem_cons_of_mem _ drawn)
          · exact fun time skipped => not_before time (List.mem_cons_of_mem _ skipped)
    | skipTo time =>
      show minute ∈ ((search.skipTo time).run calls).2.upcoming ↔ minute ∈ search.upcoming ∧
        (∀ earlier, some earlier ∈ ((search.skipTo time).run calls).1 → earlier < minute) ∧
          ∀ place, Call.skipTo place ∈ Call.skipTo time :: calls → place ≤ minute
      rw [ih (sound.skipTo fun _ => whole time List.mem_cons_self) rest_whole, upcoming_skipTo,
        List.mem_filter, decide_eq_true_iff]
      constructor
      · rintro ⟨⟨member, here⟩, after, not_before⟩
        refine ⟨member, after, ?_⟩
        intro place skipped
        rcases List.mem_cons.mp skipped with same | skipped
        · cases same
          exact here
        · exact not_before place skipped
      · rintro ⟨member, after, not_before⟩
        exact ⟨⟨member, not_before time List.mem_cons_self⟩, after,
          fun place skipped => not_before place (List.mem_cons_of_mem _ skipped)⟩

/-- A search that has ended answers nothing more, wherever it is moved. -/
theorem answers_of_ended {search : Search} (ended : search.cursor = none) (calls : List Call) :
    ∀ answer ∈ (search.run calls).1, answer = none := by
  induction calls generalizing search with
  | nil => simp [run]
  | cons call calls ih =>
    cases call with
    | next =>
      have answer : search.next = (none, { search with cursor := none }) := by
        simp only [next, ended, Option.bind_none]
      intro reply member
      rw [run, answer] at member
      rcases List.mem_cons.mp member with rfl | member
      · rfl
      · exact ih rfl reply member
    | skipTo time => exact ih (by rw [skipTo, ended, Option.map_none])

/-! ## The answers of a run -/

/-- **Whatever was drawn and skipped before, the next answer is the least minute of the window that
matches, is later than every match drawn and not before any place moved to.**  There is no answer
exactly when there is no such minute, and then there is none after any further calls. -/
theorem next_isLeast {expression : String} {pattern : Pattern}
    (compiled : Pattern.compile expression = .ok pattern) (window : Window)
    (shown : window.start.InRange) (calls : List Call)
    (whole : ∀ time, .skipTo time ∈ calls → time.IsWholeMinute) :
    let drawn := ((Search.ofWindow pattern window).run calls).1
    let search := ((Search.ofWindow pattern window).run calls).2
    let ahead : Set WallTime := {minute | Candidate pattern window minute ∧
      (∀ earlier, some earlier ∈ drawn → earlier < minute) ∧
        ∀ time, .skipTo time ∈ calls → time ≤ minute}
    (∀ minute, search.next.1 = some minute ↔ IsLeast ahead minute) ∧
      (search.next.1 = none ↔ ahead = ∅) ∧
        (search.next.1 = none →
          ∀ later, ∀ answer ∈ (search.next.2.run later).1, answer = none) := by
  intro drawn search ahead
  have sound := Sound.ofWindow (Pattern.inDomains_of_compile compiled) shown.1
  have mem_ahead (minute : WallTime) : minute ∈ ahead ↔ minute ∈ search.upcoming := by
    rw [mem_upcoming_run sound whole, upcoming_ofWindow pattern shown.1,
      mem_matchesFrom_iff_candidate pattern shown.1]
    rfl
  have ascending := search.upcoming_ascending
  obtain ⟨-, outcome⟩ := next_upcoming (sound.run whole)
  cases answer : search.next.1 with
  | none =>
    rw [answer] at outcome
    have none_ahead : ahead = ∅ := by
      apply Set.eq_empty_of_forall_notMem
      intro minute member
      rw [mem_ahead, outcome.1] at member
      exact List.not_mem_nil member
    refine ⟨?_, ⟨fun _ => none_ahead, fun _ => rfl⟩, fun _ => answers_of_ended outcome.2⟩
    intro minute
    refine ⟨nofun, fun least => ?_⟩
    exact absurd least.1 (by rw [none_ahead]; exact Set.notMem_empty minute)
  | some found =>
    rw [answer] at outcome
    rw [outcome] at ascending
    have least : IsLeast ahead found := by
      refine ⟨?_, ?_⟩
      · rw [mem_ahead, outcome]
        exact List.mem_cons_self
      · intro minute member
        rw [mem_ahead, outcome] at member
        rcases List.mem_cons.mp member with rfl | member
        · exact le_refl _
        · exact le_of_lt ((List.pairwise_cons.mp ascending).1 minute member)
    refine ⟨?_, ?_, nofun⟩
    · intro minute
      rw [Option.some_inj]
      exact ⟨fun same => same ▸ least, fun other => least.unique other⟩
    · refine ⟨nofun, fun none_ahead => ?_⟩
      exact absurd least.1 (by rw [none_ahead]; exact Set.notMem_empty found)

/-! ## Leap days

The midnights of 29 February, from within a leap second of 2024 on: the first of
them lies before the window begins, the second is drawn, and the next call finds
the first one behind the place moved to. -/

namespace LeapDays

/-- Midnight on every 29 February. -/
def pattern : Pattern where
  minutes := .only ⟨#[0], by decide, by decide⟩
  hours := .only ⟨#[0], by decide, by decide⟩
  monthDays := .only ⟨#[29], by decide, by decide⟩
  months := .only ⟨#[2], by decide, by decide⟩
  weekDays := .any
  year := "*"

/-- From within the leap second at the end of the first minute of 29 February 2024 on. -/
def window : Window where
  start := { date := ⟨19782⟩, secondOfDay := 59, nanos := 1500000000 }
  stop := none
  ordered := by simp

/-- One match is drawn, and the search is moved to the beginning of 2030. -/
def calls : List Call := [.next, .skipTo (startOfYear 2030)]

theorem calls_whole (time : WallTime) (member : .skipTo time ∈ calls) : time.IsWholeMinute := by
  rcases List.mem_cons.mp member with other | member
  · cases other
  · cases List.mem_singleton.mp member
    exact midnight_isWholeMinute _

/-- After 29 February 2028 was drawn, the least minute ahead is 29 February 2032. -/
theorem isLeast_leapDay_2032 :
    Pattern.compile "0 0 29 FEB * *" = .ok pattern ∧ window.start.InRange ∧
      ((Search.ofWindow pattern window).run calls).1 = [some (midnight ⟨21243⟩)] ∧
      IsLeast {minute | Candidate pattern window minute ∧
        (∀ earlier, some earlier ∈ ((Search.ofWindow pattern window).run calls).1 →
          earlier < minute) ∧
          ∀ time, .skipTo time ∈ calls → time ≤ minute} (midnight ⟨22704⟩) := by
  have compiled : Pattern.compile "0 0 29 FEB * *" = .ok pattern := by decide +kernel
  have shown : window.start.InRange := by decide
  have answer :
      ((Search.ofWindow pattern window).run calls).2.next.1 = some (midnight ⟨22704⟩) := by
    decide +kernel
  refine ⟨compiled, shown, by decide +kernel, ?_⟩
  exact ((next_isLeast compiled window shown calls calls_whole).1 _).mp answer

end LeapDays

end Search

end Timetable
