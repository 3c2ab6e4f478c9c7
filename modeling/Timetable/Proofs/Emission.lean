import Timetable.Proofs.Reliability

/-!
# What a schedule emits

What options describe can be said without any search: of the minutes in the window
those that match, cut short and sifted by the filters, and of these the ones that
the wall clock shows, each with its offset (`Schedule.Options.occurrences`).  A
schedule built from the options emits that list with a steady resolver, item for
item, and then nothing more (`Schedule.next_eq_occurrences`).

The instants must lie in the range of the clocks, and so must what the wall clock
shows at them.  They do when the window begins three days within it, since no offset
amounts to a day.
-/

namespace Timetable

open Calendar WallTime

set_option autoImplicit false

namespace Schedule

variable {σ : Type} {offset : Query → Offset}

/-- The occurrences that options describe, by the offsets of their zone. -/
def Options.occurrences (options : Options) (now : WallTime) (offset : Query → Offset)
    (pattern : Pattern) (year : Option Nat) : List Zoned :=
  let zone := options.zone.getD defaultZone
  let start := placedBy offset zone (options.start.getD now)
  let stop := options.stop.map (placedBy offset zone)
  let candidates := pattern.candidates year start stop
  Resolver.occurring offset zone (chosen (options.filters ++ [Filter.ofYear year]) candidates)

/-! ## The instants of a window -/

/-- With offsets below a day, the candidates from a start three days within the range on can be
fixed. -/
theorem fixable_of_mem {zone : String} {utc : WallTime}
    (bounded : ∀ query, -86400 < (offset query).seconds ∧ (offset query).seconds < 86400)
    (away : yearStart firstYear + 3 ≤ utc.date.number) {pattern : Pattern} {year : Option Nat}
    {stop : Option WallTime} {minute : WallTime}
    (candidate : minute ∈ pattern.candidates year (placedBy offset zone utc) stop) :
    Resolver.Fixable offset zone minute := by
  obtain ⟨scanned, after, -⟩ :=
    (Pattern.mem_matchesFrom _ _ _ _).mp (List.mem_of_mem_filter candidate)
  have in_years := ((mem_minutesThrough yearLimit minute).mp scanned).2.2
  have last := (lt_searchStop_iff minute.date).mpr in_years
  have margin : searchStop + 2 ≤ yearStart (lastYear + 1) := by decide
  have start := bounded { clock := .utc, zone, time := utc }
  have own := bounded { clock := .wall, zone, time := minute }
  have instant : (Resolver.zonedBy offset zone minute).utc.seconds =
      minute.seconds - (offset { clock := .wall, zone, time := minute }).seconds :=
    seconds_shift minute _
  have back := bounded { clock := .utc, zone, time := (Resolver.zonedBy offset zone minute).utc }
  have := minute.secondOfDay_lt
  rw [WallTime.le_iff, placedBy, onWall, seconds_shift] at after
  rw [seconds, seconds] at after
  -- Each of the three offsets, of the start, the minute and the instant, takes less than a day.
  constructor
  · apply inRange_of_seconds <;> rw [instant, seconds] <;> omega
  · apply inRange_of_seconds <;> rw [onWall, seconds_shift, instant, seconds] <;> omega

/-! ## Runs -/

/-- After any number of items, the next one is the occurrence of that number. -/
theorem iterate_next {schedule : Schedule σ} (steady : schedule.resolver.Steady offset)
    (fixable : ∀ minute ∈ schedule.ahead, Resolver.Fixable offset schedule.zone minute)
    (count : Nat) :
    ((fun earlier : Schedule σ => earlier.next.2)^[count] schedule).next.1 =
      ((Resolver.occurring offset schedule.zone schedule.ahead)[count]?).map .ok := by
  induction count generalizing schedule with
  | zero =>
    obtain ⟨-, -, drawn⟩ := next_of_steady steady
    have first := (Resolver.drawBy_of_fixable fixable).1
    rw [drawn] at first
    rw [← List.head?_eq_getElem?]
    exact first
  | succ count ih =>
    obtain ⟨later_steady, zone, drawn⟩ := next_of_steady steady
    obtain ⟨-, subset, rest⟩ := Resolver.drawBy_of_fixable fixable
    rw [drawn] at subset rest
    rw [Function.iterate_succ_apply, ih later_steady, zone, rest, List.getElem?_tail]
    rw [zone]
    exact fun minute member => fixable minute (subset member)

/-- A schedule is finished when it has been asked in vain. -/
theorem finished_iterate {schedule : Schedule σ} (running : schedule.finished = false)
    (count : Nat) :
    ((fun earlier : Schedule σ => earlier.next.2)^[count] schedule).finished = true ↔
      ∃ asked, count = asked + 1 ∧
        ((fun earlier : Schedule σ => earlier.next.2)^[asked] schedule).next.1 = none := by
  cases count with
  | zero =>
    rw [Function.iterate_zero_apply, running]
    exact ⟨nofun, nofun⟩
  | succ asked =>
    rw [Function.iterate_succ_apply', (next_eq_draw _).2.2]
    constructor
    · exact fun ended => ⟨asked, rfl, ended⟩
    · rintro ⟨before, same, ended⟩
      rw [Nat.succ.inj same]
      exact ended

/-! ## The whole sequence -/

/-- **A schedule emits the occurrences that its options describe.**  After any number of calls the
next item is the occurrence of that number, if the list is that long; and the schedule is finished
from the first call on that finds no occurrence. -/
theorem next_eq_occurrences {now : WallTime} {options : Options} {resolver : Resolver σ}
    {schedule : Schedule σ} {pattern : Pattern} {year : Option Nat}
    (steady : resolver.Steady offset) (compiled : options.compile = .ok (pattern, year))
    (built : (build now options resolver).1 = .ok schedule)
    (bounded : ∀ query, -86400 < (offset query).seconds ∧ (offset query).seconds < 86400)
    (away : yearStart firstYear + 3 ≤ (options.start.getD now).date.number) (count : Nat) :
    let occurrences := options.occurrences now offset pattern year
    let reached := (fun earlier : Schedule σ => earlier.next.2)^[count] schedule
    reached.next.1 = occurrences[count]?.map .ok ∧
      (reached.finished = true ↔ occurrences.length < count) := by
  intro occurrences reached
  obtain ⟨_, _, window, again, made, parts, rule⟩ := parts_of_build steady.unreliable built
  cases compiled.symm.trans again
  obtain ⟨start, stop⟩ := ends_of_make made
  have zone : schedule.zone = options.zone.getD defaultZone := by rw [parts]; rfl
  have same_window : schedule.window = window := by rw [parts]; rfl
  have running : schedule.finished = false := by rw [parts]; rfl
  have ahead := ahead_of_build compiled built
  rw [same_window, start, stop] at ahead
  -- The list ahead of the new schedule is the reference before the gaps are taken out of it.
  have listed : Resolver.occurring offset schedule.zone schedule.ahead = occurrences := by
    rw [ahead, zone]
    rfl
  have fixable : ∀ minute ∈ schedule.ahead, Resolver.Fixable offset schedule.zone minute := by
    intro minute member
    rw [ahead] at member
    rw [zone]
    exact fixable_of_mem bounded away ((chosen_sublist _ _).subset member)
  have item (number : Nat) := iterate_next (steady.of_rule rule) fixable number
  rw [listed] at item
  refine ⟨item count, (finished_iterate running count).trans ?_⟩
  constructor
  · rintro ⟨asked, rfl, ended⟩
    rw [item asked, Option.map_eq_none_iff, List.getElem?_eq_none_iff] at ended
    exact Nat.lt_succ_of_le ended
  · intro more
    refine ⟨count - 1, by omega, ?_⟩
    rw [item, Option.map_eq_none_iff, List.getElem?_eq_none_iff]
    omega

namespace SpringForward

theorem resolver_steady : resolver.Steady clockOffset := fun _ _ => rfl

theorem clockOffset_bounded (query : Query) :
    -86400 < (clockOffset query).seconds ∧ (clockOffset query).seconds < 86400 := by
  rw [clockOffset]
  split <;> decide

/-- The 29th and the 30th are all that occurs: the 28th is rejected, the 31st is in the gap, and the
year ends the sequence. -/
theorem occurrences_eq_pair :
    options.occurrences (midnight ⟨0⟩) clockOffset pattern (some 2024) =
      [⟨halfPastOne 19811, ⟨0⟩⟩, ⟨halfPastOne 19812, ⟨0⟩⟩] := by
  have item := next_eq_occurrences resolver_steady options_compile build_eq_schedule
    clockOffset_bounded (by decide)
  have first : schedule.next.1 = some (.ok ⟨halfPastOne 19811, ⟨0⟩⟩) := by decide +kernel
  have second : schedule.next.2.next.1 = some (.ok ⟨halfPastOne 19812, ⟨0⟩⟩) := by
    decide +kernel
  have third : schedule.next.2.next.2.next.1 = none := by decide +kernel
  have at_first := first.symm.trans (item 0).1
  have at_second := second.symm.trans (item 1).1
  have at_third := third.symm.trans (item 2).1
  match options.occurrences (midnight ⟨0⟩) clockOffset pattern (some 2024), at_first, at_second,
    at_third with
  | [], at_first, _, _ => cases at_first
  | [_], _, at_second, _ => cases at_second
  | [_, _], at_first, at_second, _ =>
    cases at_first
    cases at_second
    rfl
  | _ :: _ :: _ :: _, _, _, at_third => cases at_third

end SpringForward

end Schedule

end Timetable
