import Timetable.Proofs.Canonical
import Timetable.Proofs.Gaps
import Timetable.Proofs.Instants

/-!
# Windows that are refused

The ends of a window are given as instants, and are compared as readings of the wall
clock.  A schedule is refused exactly when the clock shows less at the stop than at the
start (`Schedule.build_window_iff`).

That is the order of the instants when they are more than a day apart, and when the clock
shows the reading of the later one for the first time.  Where the clock was put back
meanwhile it is not: a stop after the start may be refused, and a stop before the start
accepted (`Schedule.EndOfSummer.refused_in_order`).
-/

namespace Timetable

open WallTime

set_option autoImplicit false

/-! ## The order of two readings -/

namespace Zone

variable {zone : Zone} {start stop : WallTime}

/-- Two instants in the order of which the wall clock has its readings: they are more than a day
apart, or the later one is the first with its reading. -/
def InOrder (zone : Zone) (start stop : WallTime) : Prop :=
  start.seconds + 86400 < stop.seconds ∨ stop.seconds + 86400 < start.seconds ∨
    zone.FirstShown (max start stop)

/-- Over more than a day readings are in the order of the instants. -/
theorem reading_lt_of_day_passed (spaced : zone.SpacedOut)
    (passed : start.seconds + 86400 < stop.seconds) : zone.reading start < zone.reading stop := by
  rw [WallTime.lt_iff, seconds_reading, seconds_reading]
  exact .inl (shownAt_lt_of_day_passed spaced passed)

/-- A reading that is shown for the first time is later than those of earlier instants. -/
theorem FirstShown.reading_lt (spaced : zone.SpacedOut) (first : zone.FirstShown stop)
    (before : start < stop) : zone.reading start < zone.reading stop := by
  by_contra not_before
  exact not_le_of_gt before (first.le_of_reading_le spaced (not_lt.mp not_before))

/-- **The readings of such instants are in the order of time.** -/
theorem InOrder.reading_lt_iff (spaced : zone.SpacedOut) (in_order : zone.InOrder start stop) :
    zone.reading stop < zone.reading start ↔ stop < start := by
  rcases lt_trichotomy start stop with before | rfl | after
  · have readings : zone.reading start < zone.reading stop := by
      rcases in_order with passed | passed | first
      · exact reading_lt_of_day_passed spaced passed
      · have := (WallTime.lt_iff _ _).mp before
        omega
      · rw [max_eq_right before.le] at first
        exact first.reading_lt spaced before
    exact iff_of_false readings.not_gt before.not_gt
  · exact iff_of_false (lt_irrefl _) (lt_irrefl _)
  · refine iff_of_true ?_ after
    rcases in_order with passed | passed | first
    · have := (WallTime.lt_iff _ _).mp after
      omega
    · exact reading_lt_of_day_passed spaced passed
    · rw [max_eq_left after.le] at first
      exact first.reading_lt spaced after

end Zone

namespace Schedule

/-! ## The window of a new schedule -/

/-- Options whose expression compiles have its year. -/
theorem Options.exists_compile_eq_ok {options : Options} {pattern : Pattern}
    (compiled : Pattern.compile options.expression = .ok pattern) :
    ∃ year, options.compile = .ok (pattern, year) := by
  obtain ⟨year, year_read⟩ :=
    (exists_readYear_eq_ok_iff _).mpr (Pattern.canonical_of_compile compiled).year
  exact ⟨year, compile_eq_ok_iff.mpr ⟨compiled, year_read⟩⟩

section Building

variable (now : WallTime) (options : Options) {catalogue : Catalogue} {name : String} {zone : Zone}
  {start stop : WallTime}

/-- Between two instants a schedule has the window of their readings, or is refused with them. -/
theorem build_of_ends {pattern : Pattern} {year : Option Nat}
    (compiled : options.compile = .ok (pattern, year)) (zone_given : options.zone = some name)
    (start_given : options.start = some start) (stop_given : options.stop = some stop)
    (known : catalogue.zone? name = some zone) (start_shown : (zone.reading start).InRange)
    (stop_shown : (zone.reading stop).InRange) :
    (build now options (.ofCatalogue catalogue)).1 =
      if order : zone.reading start ≤ zone.reading stop then
        .ok (ofWindow options name pattern year
          ⟨zone.reading start, some (zone.reading stop), by simpa using order⟩
          (.ofCatalogue catalogue))
      else .error (.fault (.window (zone.reading start) (zone.reading stop))) := by
  simp only [build, compiled, Options.zoneName, zone_given, start_given, stop_given, placeStart,
    placeStop, placeGiven, Resolver.wallAt_of_zone? known start_shown,
    Resolver.wallAt_of_zone? known stop_shown]
  by_cases order : zone.reading start ≤ zone.reading stop
  · simp only [Window.make, dif_pos order]
  · simp only [Window.make, dif_neg order]

/-- **A schedule whose expression compiles is refused exactly when the wall clock shows less at the
stop than at the start, and is built otherwise**, as long as clocks can show both readings.  For
instants of which the clock has its readings in order that is when the stop comes before the
start. -/
theorem build_window_iff {pattern : Pattern}
    (compiled : Pattern.compile options.expression = .ok pattern)
    (zone_given : options.zone = some name) (start_given : options.start = some start)
    (stop_given : options.stop = some stop) (known : catalogue.zone? name = some zone)
    (spaced : zone.SpacedOut) (start_shown : (zone.reading start).InRange)
    (stop_shown : (zone.reading stop).InRange) :
    let outcome := (build now options (.ofCatalogue catalogue)).1
    (outcome = .error (.fault (.window (zone.reading start) (zone.reading stop))) ↔
        zone.reading stop < zone.reading start) ∧
      ((∃ schedule, outcome = .ok schedule) ↔ zone.reading start ≤ zone.reading stop) ∧
        (zone.InOrder start stop → (zone.reading stop < zone.reading start ↔ stop < start)) := by
  intro outcome
  obtain ⟨year, options_compiled⟩ := Options.exists_compile_eq_ok compiled
  have built := build_of_ends now options options_compiled zone_given start_given stop_given known
    start_shown stop_shown
  change outcome = _ at built
  refine ⟨?_, ?_, fun in_order => in_order.reading_lt_iff spaced⟩ <;> rw [built]
  · by_cases order : zone.reading start ≤ zone.reading stop
    · rw [dif_pos order]
      exact iff_of_false nofun (not_lt_of_ge order)
    · rw [dif_neg order]
      exact iff_of_true rfl (not_le.mp order)
  · by_cases order : zone.reading start ≤ zone.reading stop
    · rw [dif_pos order]
      exact iff_of_true ⟨_, rfl⟩ order
    · rw [dif_neg order]
      refine iff_of_false ?_ order
      rintro ⟨schedule, accepted⟩
      cases accepted

end Building

/-! ### An hour that London shows twice

The wall clock is put back from two to one in the morning of 27 October 2024, three
quarters of an hour before it shows a quarter past one again. -/

namespace EndOfSummer

/-- Half past one in summer, in universal time. -/
def summer : WallTime := (midnight ⟨20023⟩).shift 1800

/-- A quarter past one in winter, in universal time. -/
def winter : WallTime := (midnight ⟨20023⟩).shift 4500

/-- Every minute in London, from a start to a stop. -/
def everyMinute (start stop : WallTime) : Options :=
  .everyMinute "Europe/London" (some start) (some stop)

theorem london_known : Catalogue.world.zone? "Europe/London" = some Zone.london := by rfl

theorem reading_winter_lt : Zone.london.reading winter < Zone.london.reading summer := by decide

theorem reading_inRange :
    ∀ instant ∈ [summer, winter], (Zone.london.reading instant).InRange := by decide

/-- A window from half past one in summer to a quarter past one in winter is refused. -/
theorem summer_to_winter :
    Pattern.compile "* * * * * *" = .ok .everyMinute ∧
      Catalogue.world.zone? "Europe/London" = some Zone.london ∧ Zone.london.SpacedOut ∧
        (Zone.london.reading summer).InRange ∧ (Zone.london.reading winter).InRange ∧
          (build (midnight ⟨0⟩) (everyMinute summer winter) (.ofCatalogue .world)).1 =
            .error (.fault
              (.window (Zone.london.reading summer) (Zone.london.reading winter))) := by
  have spaced := Catalogue.spacedOut_of_zone? london_known
  have start_shown := reading_inRange summer (by simp)
  have stop_shown := reading_inRange winter (by simp)
  obtain ⟨refused, -⟩ := build_window_iff (midnight ⟨0⟩) (everyMinute summer winter)
    Pattern.compile_everyMinute rfl rfl rfl london_known spaced start_shown stop_shown
  exact ⟨Pattern.compile_everyMinute, london_known, spaced, start_shown, stop_shown,
    refused.mpr reading_winter_lt⟩

/-- The window that is refused is in the order of time, and the window the other way round, which
is not, is accepted. -/
theorem refused_in_order :
    Pattern.compile "* * * * * *" = .ok .everyMinute ∧
      Catalogue.world.zone? "Europe/London" = some Zone.london ∧ Zone.london.SpacedOut ∧
        summer < winter ∧
          (build (midnight ⟨0⟩) (everyMinute summer winter) (.ofCatalogue .world)).1 =
            .error (.fault (.window (Zone.london.reading summer) (Zone.london.reading winter))) ∧
              ∃ schedule,
                (build (midnight ⟨0⟩) (everyMinute winter summer) (.ofCatalogue .world)).1 =
                  .ok schedule := by
  have start_shown := reading_inRange summer (by simp)
  have stop_shown := reading_inRange winter (by simp)
  refine ⟨Pattern.compile_everyMinute, london_known, Catalogue.spacedOut_of_zone? london_known,
    by decide, ?_, ?_⟩
  · rw [build_of_ends (midnight ⟨0⟩) (everyMinute summer winter) (Options.compile_everyMinute _ _ _)
      rfl rfl rfl london_known start_shown stop_shown, dif_neg (not_le_of_gt reading_winter_lt)]
  · rw [build_of_ends (midnight ⟨0⟩) (everyMinute winter summer) (Options.compile_everyMinute _ _ _)
      rfl rfl rfl london_known stop_shown start_shown, dif_pos reading_winter_lt.le]
    exact ⟨_, rfl⟩

end EndOfSummer

end Schedule

end Timetable
