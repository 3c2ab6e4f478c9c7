import Mathlib.Data.Int.LeastGreatest
import Timetable.Occurrence
import Timetable.Proofs.YearlyRules

/-!
# Readings in gaps

A reading that the wall clock never shows was skipped by a transition: the clock showed
less just before it, and shows more from then on (`Zone.showings_eq_empty_iff`).  There
is one such transition only, and the offset before it is what a lookup should borrow
for the reading.  The reading a day earlier has that offset, because a gap is a day
long at most, and is shown with it for the first time
(`Zone.Skips.isLeast_showings`).

So the lookup for a reading gives the first instant at which the wall clock shows it, or
else the offset before the gap (`Resolver.lookup_spec`), with one exception.  The day
before a leap second is counted from the end of the leap second.  At the end of a gap
of a whole day that is the first reading after the gap, less a day: the first reading
in the gap.
-/

namespace Timetable

open Calendar WallTime

set_option autoImplicit false

/-! ## Readings away from the ends of the range -/

namespace WallTime

/-- A reading on neither the first nor the last day that a clock can show. -/
def Interior (time : WallTime) : Prop :=
  yearStart firstYear < time.date.number ∧ time.date.number + 1 < yearStart (lastYear + 1)

instance (time : WallTime) : Decidable time.Interior := inferInstanceAs (Decidable (_ ∧ _))

variable {time : WallTime}

/-- A clock can show whatever is a day away at most. -/
theorem Interior.inRange_of_near (interior : time.Interior) {other : WallTime}
    (not_before : time.seconds - 86400 ≤ other.seconds)
    (not_after : other.seconds ≤ time.seconds + 86400) : other.InRange := by
  have of_day := time.secondOfDay_lt
  have here : time.seconds = time.date.number * 86400 + time.secondOfDay := rfl
  obtain ⟨first, last⟩ := interior
  exact inRange_of_seconds (by omega) (by omega)

theorem Interior.shift_inRange (interior : time.Interior) {span : Int}
    (small : -86400 ≤ span ∧ span ≤ 86400) : (time.shift span).InRange :=
  interior.inRange_of_near (by rw [seconds_shift]; omega) (by rw [seconds_shift]; omega)

/-- Time that is turned back from within a leap second is counted from the end of it. -/
theorem exists_elapse?_of_leap (leap : 1000000000 ≤ time.nanos) {span : Int}
    (backwards : span < 0) (shown : (time.shift (span + 1)).InRange) :
    ∃ before, time.elapse? span = some before ∧ before.seconds = time.seconds + span + 1 := by
  rw [elapse?, if_neg (by omega)]
  simp only [if_pos backwards, inRange?]
  refine ⟨_, if_pos ⟨shown.1, shown.2⟩, ?_⟩
  simp only [seconds, shift]
  omega

theorem seconds_toUtc (wall : WallTime) (offset : Offset) :
    (wall.toUtc offset).seconds = wall.seconds - offset.seconds :=
  wall.seconds_shift (-offset.seconds)

/-- A day before a reading there is another.  That of a leap second is a day before its end. -/
theorem Interior.exists_day_before (interior : time.Interior) :
    ∃ before, time.elapse? (-86400) = some before ∧
      before.seconds = if 1000000000 ≤ time.nanos then time.seconds - 86399
        else time.seconds - 86400 := by
  split_ifs with leap
  · have backwards : (-86400 : Int) < 0 := by omega
    obtain ⟨before, elapsed, seconds⟩ :=
      exists_elapse?_of_leap leap backwards (interior.shift_inRange (by omega))
    exact ⟨before, elapsed, by omega⟩
  · refine ⟨time.shift (-86400), ?_, ?_⟩
    · rw [elapse?, if_pos (.inl (not_le.mp leap)), inRange?, if_pos]
      exact interior.shift_inRange (by omega)
    · rw [seconds_shift]
      omega

end WallTime

instance : IsTrans Transition Transition.Apart := ⟨fun _ _ _ _ _ => by omega⟩

namespace Zone

variable {zone : Zone} {transition : Transition} {wall : Int}

/-! ## Gaps -/

/-- The offset just before a transition. -/
def offsetBefore (zone : Zone) (transition : Transition) : Offset :=
  zone.offsetAt (transition.instant - 1)

/-- A transition of a zone by which the wall clock skips a reading, in seconds. -/
structure Skips (zone : Zone) (transition : Transition) (wall : Int) : Prop where
  mem : transition ∈ zone.transitions
  reached : transition.instant + (zone.offsetBefore transition).seconds ≤ wall
  passed : wall < transition.instant + transition.offset.seconds

/-- At a transition its offset is in force. -/
theorem offsetAmong_of_mem {current : Offset} {transitions : List Transition}
    (apart : transitions.IsChain Transition.Apart) (member : transition ∈ transitions) :
    offsetAmong current transition.instant transitions = transition.offset := by
  rw [List.isChain_iff_pairwise] at apart
  induction transitions generalizing current with
  | nil => cases member
  | cons first later ih =>
    obtain ⟨first_apart, later_apart⟩ := List.pairwise_cons.mp apart
    rw [offsetAmong]
    rcases List.mem_cons.mp member with rfl | member
    · rw [if_neg (lt_irrefl _)]
      apply offsetAmong_of_lt
      intro next at_head
      have := first_apart next (List.mem_of_mem_head? at_head)
      omega
    · have := first_apart transition member
      rw [if_neg (by omega)]
      exact ih later_apart member

theorem offsetAt_of_mem (spaced : zone.SpacedOut) (member : transition ∈ zone.transitions) :
    zone.offsetAt transition.instant = transition.offset := offsetAmong_of_mem spaced.apart member

/-- The offset changes at transitions only. -/
theorem exists_transition_among {current : Offset} {transitions : List Transition} {utc : Int}
    (changed : offsetAmong current (utc - 1) transitions ≠ offsetAmong current utc transitions) :
    ∃ transition ∈ transitions, transition.instant = utc := by
  induction transitions generalizing current with
  | nil => exact absurd rfl changed
  | cons first later ih =>
    rw [offsetAmong, offsetAmong] at changed
    rcases lt_trichotomy first.instant utc with before | same | after
    · rw [if_neg (by omega), if_neg (by omega)] at changed
      obtain ⟨transition, member, instant⟩ := ih changed
      exact ⟨transition, List.mem_cons_of_mem _ member, instant⟩
    · exact ⟨first, List.mem_cons_self, same⟩
    · rw [if_pos (by omega), if_pos (by omega)] at changed
      exact absurd rfl changed

namespace Skips

variable (spaced : zone.SpacedOut) (skips : zone.Skips transition wall)

include spaced skips

/-- The one change in two days around a gap is the gap. -/
theorem eq_of_change {start change before after : Int} (begun : start < transition.instant)
    (ended : transition.instant ≤ start + 172800)
    (known : ∀ utc, start ≤ utc → utc ≤ start + 172800 →
      zone.shownAt utc = utc + if utc < change then before else after) :
    change = transition.instant ∧ before = (zone.offsetBefore transition).seconds ∧
      after = transition.offset.seconds := by
  have just_before := known (transition.instant - 1) (by omega) (by omega)
  have just_then := known transition.instant (by omega) (by omega)
  have reached := skips.reached
  have passed := skips.passed
  rw [shownAt, offsetAt_of_mem spaced skips.mem] at just_then
  rw [shownAt] at just_before
  rw [offsetBefore] at reached ⊢
  split_ifs at * <;> omega

/-- In two days around a gap, the offset before it stands until the transition and its own from
then on. -/
theorem shownAt_around (start utc : Int) (begun : start < transition.instant)
    (ended : transition.instant ≤ start + 172800) (from_start : start ≤ utc)
    (to_end : utc ≤ start + 172800) :
    zone.shownAt utc = utc + if utc < transition.instant then
      (zone.offsetBefore transition).seconds else transition.offset.seconds := by
  obtain ⟨change, before, after, -, known⟩ := exists_change spaced start
  obtain ⟨rfl, rfl, rfl⟩ := skips.eq_of_change spaced begun ended known
  exact known utc from_start to_end

/-- A gap is a day long at most. -/
theorem le_day :
    transition.offset.seconds ≤ (zone.offsetBefore transition).seconds + 86400 := by
  obtain ⟨change, before, after, small, known⟩ :=
    exists_change spaced (transition.instant - 1)
  obtain ⟨-, rfl, rfl⟩ := skips.eq_of_change spaced (by omega) (by omega) known
  omega

/-- Before a gap the wall clock shows less than any reading in it. -/
theorem shownAt_lt {utc : Int} (before : utc < transition.instant) : zone.shownAt utc < wall := by
  have reached := skips.reached
  have around (utc : Int) :=
    skips.shownAt_around spaced (transition.instant - 172800) utc (by omega) (by omega)
  by_cases near : transition.instant - 172800 ≤ utc
  · rw [around utc near (by omega), if_pos before]
    omega
  · have just_before := around (transition.instant - 1) (by omega) (by omega)
    rw [if_pos (by omega)] at just_before
    have gained := shownAt_lt_of_day_passed spaced
      (show utc + 86400 < transition.instant - 1 by omega)
    omega

/-- From a gap on the wall clock shows more than any reading in it. -/
theorem lt_shownAt {utc : Int} (after : transition.instant ≤ utc) : wall < zone.shownAt utc := by
  have passed := skips.passed
  have around (utc : Int) :=
    skips.shownAt_around spaced (transition.instant - 1) utc (by omega) (by omega)
  by_cases near : utc ≤ transition.instant - 1 + 172800
  · rw [around utc (by omega) near, if_neg (by omega)]
    omega
  · have just_then := around transition.instant (by omega) (by omega)
    rw [if_neg (lt_irrefl _)] at just_then
    have gained := shownAt_lt_of_day_passed spaced
      (show transition.instant + 86400 < utc by omega)
    omega

theorem showings_eq_empty : zone.showings wall = ∅ := by
  refine Set.eq_empty_of_forall_notMem fun utc shown => ?_
  rcases lt_or_ge utc transition.instant with before | after
  · exact (skips.shownAt_lt spaced before).ne shown
  · exact (skips.lt_shownAt spaced after).ne' shown

/-- A reading is skipped once. -/
theorem eq_of_skips {other : Transition} (skips_too : zone.Skips other wall) :
    other = transition := by
  have same : other.instant = transition.instant := by
    rcases lt_trichotomy other.instant transition.instant with before | same | after
    · exact absurd (skips_too.lt_shownAt spaced le_rfl) (skips.shownAt_lt spaced before).not_gt
    · exact same
    · exact absurd (skips.lt_shownAt spaced le_rfl) (skips_too.shownAt_lt spaced after).not_gt
  have same_offset : other.offset = transition.offset := by
    rw [← offsetAt_of_mem spaced skips.mem, ← offsetAt_of_mem spaced skips_too.mem, same]
  cases other
  cases transition
  cases same
  cases same_offset
  rfl

/-- **What the wall clock shows in the last day before a gap, it shows for the first time, with the
offset before the gap.** -/
theorem isLeast_showings {earlier : Int}
    (within : transition.instant + (zone.offsetBefore transition).seconds - 86400 ≤ earlier)
    (before : earlier < transition.instant + (zone.offsetBefore transition).seconds) :
    IsLeast (zone.showings earlier) (earlier - (zone.offsetBefore transition).seconds) := by
  have around (utc : Int) :=
    skips.shownAt_around spaced (transition.instant - 172800) utc (by omega) (by omega)
  have shown : zone.shownAt (earlier - (zone.offsetBefore transition).seconds) = earlier := by
    rw [around _ (by omega) (by omega), if_pos (by omega)]
    omega
  refine ⟨shown, fun utc shown_too => ?_⟩
  by_contra not_after
  change zone.shownAt utc = earlier at shown_too
  by_cases near : transition.instant - 172800 ≤ utc
  · have here := around utc near (by omega)
    rw [if_pos (by omega)] at here
    omega
  · have gained := shownAt_lt_of_day_passed spaced
      (show utc + 86400 < earlier - (zone.offsetBefore transition).seconds by omega)
    omega

end Skips

/-- However long before or after, the wall clock has shown or will show less or more. -/
theorem shownAt_add_le (spaced : zone.SpacedOut) (utc : Int) (days : Nat) :
    zone.shownAt utc + days ≤ zone.shownAt (utc + 86401 * days) := by
  induction days with
  | zero => simp
  | succ days ih =>
    have gained := shownAt_lt_of_day_passed spaced
      (show utc + 86401 * days + 86400 < utc + 86401 * (days + 1 : Nat) by omega)
    omega

/-- There is a last instant at which the wall clock shows no more than a reading. -/
theorem exists_last_shownAt_le (spaced : zone.SpacedOut) (wall : Int) :
    ∃ last, zone.shownAt last ≤ wall ∧ wall < zone.shownAt (last + 1) := by
  have some_time : ∃ utc, zone.shownAt utc ≤ wall := by
    let days := (zone.shownAt 0 - wall).toNat
    have gained := shownAt_add_le spaced (-86401 * days) days
    rw [show -86401 * (days : Int) + 86401 * days = 0 by omega] at gained
    exact ⟨-86401 * days, by omega⟩
  have not_for_ever : ∃ bound, ∀ utc, zone.shownAt utc ≤ wall → utc ≤ bound := by
    let days := (wall + 1 - zone.shownAt 0).toNat
    have gained := shownAt_add_le spaced 0 days
    refine ⟨0 + 86401 * days + 86400, fun utc no_more => ?_⟩
    by_contra later
    have := shownAt_lt_of_day_passed spaced (not_le.mp later)
    omega
  obtain ⟨last, no_more, is_last⟩ := Int.exists_greatest_of_bdd not_for_ever some_time
  refine ⟨last, no_more, not_le.mp fun still => ?_⟩
  have := is_last (last + 1) still
  omega

/-- **A reading is never shown exactly when a transition skips it**, and then one only does. -/
theorem showings_eq_empty_iff (spaced : zone.SpacedOut) (wall : Int) :
    zone.showings wall = ∅ ↔ ∃! transition, zone.Skips transition wall := by
  refine ⟨fun never => ?_, fun ⟨_, skips, _⟩ => skips.showings_eq_empty spaced⟩
  obtain ⟨last, no_more, more⟩ := exists_last_shownAt_le spaced wall
  have less : zone.shownAt last ≠ wall := fun shown => (never ▸ shown : last ∈ (∅ : Set Int))
  have last_eq : last = last + 1 - 1 := by omega
  have changed : zone.offsetAt (last + 1 - 1) ≠ zone.offsetAt (last + 1) := by
    rw [← last_eq]
    intro same
    rw [shownAt] at *
    rw [← same] at more
    omega
  obtain ⟨transition, member, instant⟩ := exists_transition_among changed
  have skips : zone.Skips transition wall := by
    refine ⟨member, ?_, ?_⟩
    · rw [offsetBefore, instant, ← last_eq]
      rw [shownAt] at no_more less
      omega
    · rw [← offsetAt_of_mem spaced member, instant]
      exact more
  exact ⟨transition, skips, fun other skips_too => skips.eq_of_skips spaced skips_too⟩

/-! ## Offsets of a day at most -/

/-- No offset of a zone is more than a day. -/
def OffsetsWithinDay (zone : Zone) : Prop :=
  ∀ offset ∈ zone.base :: zone.transitions.map Transition.offset,
    -86400 ≤ offset.seconds ∧ offset.seconds ≤ 86400

instance (zone : Zone) : Decidable zone.OffsetsWithinDay :=
  inferInstanceAs (Decidable (∀ offset ∈ _ :: _, _))

theorem offsetAmong_mem (current : Offset) (utc : Int) (transitions : List Transition) :
    offsetAmong current utc transitions ∈ current :: transitions.map Transition.offset := by
  induction transitions generalizing current with
  | nil => exact List.mem_cons_self
  | cons first later ih =>
    rw [offsetAmong]
    split_ifs
    · exact List.mem_cons_self
    · exact List.mem_cons_of_mem _ (ih first.offset)

/-- In a zone of such offsets the universal clock can show the instant of an interior reading. -/
theorem OffsetsWithinDay.toUtc_inRange (within : zone.OffsetsWithinDay) {wall : WallTime}
    (interior : wall.Interior) (utc : Int) : (wall.toUtc (zone.offsetAt utc)).InRange := by
  have bound := within _ (offsetAmong_mem zone.base utc zone.transitions)
  exact interior.shift_inRange (by rw [offsetAt]; omega)

/-- What the wall clock shows in place of a reading in a gap, by the offset before the gap, a clock
can show too. -/
theorem Skips.reading_inRange (spaced : zone.SpacedOut) {wall : WallTime}
    (interior : wall.Interior) (skips : zone.Skips transition wall.seconds) :
    (zone.reading (wall.toUtc (zone.offsetBefore transition))).InRange := by
  have reached := skips.reached
  have passed := skips.passed
  have small := skips.le_day spaced
  have seconds := seconds_toUtc wall (zone.offsetBefore transition)
  -- The instant is less than a day behind the transition.
  have shown := skips.shownAt_around spaced (transition.instant - 1)
    (wall.toUtc (zone.offsetBefore transition)).seconds (by omega) (by omega) (by omega) (by omega)
  rw [if_neg (by omega)] at shown
  apply interior.inRange_of_near <;> rw [seconds_reading] <;> omega

/-! ## The lookup for a reading -/

/-- A leap second at the end of the gap of a transition, a day after the gap began. -/
def ClosesDayGap (zone : Zone) (transition : Transition) (wall : WallTime) : Prop :=
  1000000000 ≤ wall.nanos ∧
    wall.seconds - 86399 = transition.instant + (zone.offsetBefore transition).seconds

instance (zone : Zone) (transition : Transition) (wall : WallTime) :
    Decidable (zone.ClosesDayGap transition wall) := inferInstanceAs (Decidable (_ ∧ _))

theorem offsetOnWall?_of_isLeast (spaced : zone.SpacedOut) {offset : Offset}
    (least : IsLeast (zone.showings wall) (wall - offset.seconds)) :
    zone.offsetOnWall? wall = some offset := by
  have spec := offsetOnWall?_spec spaced wall
  cases lookup : zone.offsetOnWall? wall with
  | none =>
    rw [lookup] at spec
    exact absurd least.1 (spec ▸ Set.notMem_empty _)
  | some found =>
    rw [lookup] at spec
    have same := spec.unique least
    rw [Option.some_inj]
    ext
    omega

theorem offsetOnWall?_of_never (spaced : zone.SpacedOut) (never : zone.showings wall = ∅) :
    zone.offsetOnWall? wall = none := by
  have spec := offsetOnWall?_spec spaced wall
  cases lookup : zone.offsetOnWall? wall with
  | none => rfl
  | some found =>
    rw [lookup, never] at spec
    exact absurd spec.1 (Set.notMem_empty _)

/-- No instant has a reading whose seconds are never shown. -/
theorem forall_reading_ne_iff (wall : WallTime) :
    (∀ utc, zone.reading utc ≠ wall) ↔ zone.showings wall.seconds = ∅ := by
  refine ⟨fun never => Set.eq_empty_of_forall_notMem fun utc shown => ?_, fun never utc same => ?_⟩
  · obtain ⟨instant, -, same⟩ := exists_reading_eq shown
    exact never instant same
  · have shown : utc.seconds ∈ zone.showings wall.seconds := by
      rw [← same, seconds_reading]
      rfl
    exact Set.notMem_empty _ (never ▸ shown)

/-- The first instant at which the seconds of a reading are shown is the first with the reading. -/
theorem isLeast_readings {wall : WallTime} {offset : Offset}
    (least : IsLeast (zone.showings wall.seconds) (wall.seconds - offset.seconds)) :
    IsLeast {instant | zone.reading instant = wall} (wall.toUtc offset) := by
  have seconds := seconds_toUtc wall offset
  have shown : zone.reading (wall.toUtc offset) = wall := by
    apply eq_of_seconds
    · rw [seconds_reading, seconds]
      exact least.1
    · rfl
  refine ⟨shown, fun instant same => ?_⟩
  change zone.reading instant = wall at same
  refine le_of_seconds_le ?_ (show zone.reading _ ≤ zone.reading instant by rw [shown, same])
  rw [seconds]
  apply least.2
  rw [← same, seconds_reading]
  rfl

/-- The lookup for a reading that is shown gives the first instant with it. -/
theorem exists_isLeast_of_reading (spaced : zone.SpacedOut) {utc wall : WallTime}
    (shown : zone.reading utc = wall) :
    ∃ offset, zone.offsetForWall? wall = some offset ∧
      IsLeast {instant | zone.reading instant = wall} (wall.toUtc offset) := by
  have spec := offsetOnWall?_spec spaced wall.seconds
  cases lookup : zone.offsetOnWall? wall.seconds with
  | none =>
    rw [lookup] at spec
    exact absurd shown ((forall_reading_ne_iff wall).mpr spec utc)
  | some offset =>
    rw [lookup] at spec
    exact ⟨offset, by rw [Zone.offsetForWall?, lookup, Option.some_or], isLeast_readings spec⟩

/-- A reading is shown by the offset that is in force. -/
theorem eq_offsetAt_of_reading {wall : WallTime} {offset : Offset}
    (shown : zone.reading (wall.toUtc offset) = wall) :
    offset = zone.offsetAt (wall.toUtc offset).seconds := by
  have seconds := seconds_toUtc wall offset
  have same := zone.seconds_reading (wall.toUtc offset)
  rw [shown, shownAt] at same
  ext
  omega

/-- **For a reading in a gap the offset before the gap is borrowed**, except for a leap second at
the end of a gap of a day. -/
theorem Skips.offsetForWall? (spaced : zone.SpacedOut) {wall : WallTime} (interior : wall.Interior)
    (skips : zone.Skips transition wall.seconds) :
    zone.offsetForWall? wall =
      if zone.ClosesDayGap transition wall then none else some (zone.offsetBefore transition) := by
  obtain ⟨before, elapsed, seconds⟩ := interior.exists_day_before
  have reached := skips.reached
  have passed := skips.passed
  have small := skips.le_day spaced
  rw [Zone.offsetForWall?, offsetOnWall?_of_never spaced (skips.showings_eq_empty spaced), elapsed]
  show zone.offsetOnWall? before.seconds = _
  split_ifs with closes
  · -- A day before the end of the leap second is the beginning of the gap.
    rw [if_pos closes.1] at seconds
    have same := closes.2
    have in_gap : zone.Skips transition before.seconds := ⟨skips.mem, by omega, by omega⟩
    exact offsetOnWall?_of_never spaced (in_gap.showings_eq_empty spaced)
  · apply offsetOnWall?_of_isLeast spaced
    have not_closing := not_and.mp closes
    split_ifs at seconds with leap
    · have := not_closing leap
      exact skips.isLeast_showings spaced (by omega) (by omega)
    · exact skips.isLeast_showings spaced (by omega) (by omega)

end Zone

namespace Resolver

variable {catalogue : Catalogue} {name : String} {zone : Zone} {wall : WallTime} {offset : Offset}

/-- A query for the name of a zone is answered by the zone. -/
theorem ask_of_zone? (known : catalogue.zone? name = some zone) (clock : Clock) (time : WallTime) :
    (ofCatalogue catalogue).ask { clock, zone := name, time } =
      (zoneAnswer zone { clock, zone := name, time }, ofCatalogue catalogue) := by
  simp only [ask, ofCatalogue, ofFunction, known]

theorem zoneAnswer_of_found (found : zone.offsetForWall? wall = some offset) :
    zoneAnswer zone { clock := .wall, zone := name, time := wall } = .ok offset := by
  simp only [zoneAnswer, found]

theorem zoneAnswer_of_missing (missing : zone.offsetForWall? wall = none) :
    zoneAnswer zone { clock := .wall, zone := name, time := wall } =
      .error (.resolution name (.noOffset wall)) := by
  simp only [zoneAnswer, missing]

/-- At an instant the wall clock of a zone known by name shows its reading, if a clock can. -/
theorem wallAt_of_zone? (known : catalogue.zone? name = some zone) {utc : WallTime}
    (shown : (zone.reading utc).InRange) :
    (ofCatalogue catalogue).wallAt name utc = (.ok (zone.reading utc), ofCatalogue catalogue) := by
  rw [wallAt, ask_of_zone? known]
  exact Prod.ext (readingAt_of_inRange shown) rfl

theorem fix_of_found (known : catalogue.zone? name = some zone)
    (found : zone.offsetForWall? wall = some offset) (represented : (wall.toUtc offset).InRange) :
    (ofCatalogue catalogue).fix name wall = (.ok ⟨wall, offset⟩, ofCatalogue catalogue) := by
  rw [fix, ask_of_zone? known, zoneAnswer_of_found found]
  simp only [zonedAt, if_pos represented]

/-- A reading that is bound to an instant exists when the wall clock shows it then. -/
theorem fixExisting_of_found (known : catalogue.zone? name = some zone)
    (found : zone.offsetForWall? wall = some offset) (represented : (wall.toUtc offset).InRange)
    (shown : (zone.reading (wall.toUtc offset)).InRange) :
    ((ofCatalogue catalogue).fixExisting name wall).1 =
      .ok (if zone.reading (wall.toUtc offset) = wall then some ⟨wall, offset⟩ else none) := by
  rw [fixExisting, fix_of_found known found represented]
  simp only [Zoned.utc, wallAt_of_zone? known shown]

theorem fixExisting_of_missing (known : catalogue.zone? name = some zone)
    (missing : zone.offsetForWall? wall = none) :
    ((ofCatalogue catalogue).fixExisting name wall).1 =
      .error (.fault (.resolution name (.noOffset wall))) := by
  rw [fixExisting, fix, ask_of_zone? known, zoneAnswer_of_missing missing]
  rfl

/-- **The lookup for a reading gives the first instant at which the wall clock shows it, and finds
out whether there is one.**  A reading that is never shown was skipped by one transition.  The
lookup borrows the offset before the gap for it, and fails only for a leap second that closes a gap
of a day. -/
theorem lookup_spec (known : catalogue.zone? name = some zone) (spaced : zone.SpacedOut)
    (within : zone.OffsetsWithinDay) (interior : wall.Interior) :
    let resolver := ofCatalogue catalogue
    let lookup := (resolver.ask { clock := .wall, zone := name, time := wall }).1
    let existing := (resolver.fixExisting name wall).1
    (∀ utc, zone.reading utc = wall → ∃ zoned : Zoned, zoned.wall = wall ∧
      IsLeast {instant | zone.reading instant = wall} zoned.utc ∧
        zoned.offset = zone.offsetAt zoned.utc.seconds ∧ lookup = .ok zoned.offset ∧
          (resolver.fix name wall).1 = .ok zoned ∧ existing = .ok (some zoned)) ∧
    ((∀ utc, zone.reading utc ≠ wall) → ∃! transition, zone.Skips transition wall.seconds) ∧
    ∀ transition, zone.Skips transition wall.seconds →
      (∀ utc, zone.reading utc ≠ wall) ∧
        if zone.ClosesDayGap transition wall then
          lookup = .error (.resolution name (.noOffset wall)) ∧
            existing = .error (.fault (.resolution name (.noOffset wall)))
        else lookup = .ok (zone.offsetBefore transition) ∧ existing = .ok none := by
  intro resolver lookup existing
  have lookup_eq : lookup = zoneAnswer zone { clock := .wall, zone := name, time := wall } :=
    congrArg Prod.fst (ask_of_zone? known _ _)
  refine ⟨fun utc shown => ?_, fun never => ?_, fun transition skips => ?_⟩
  · obtain ⟨offset, found, least⟩ := Zone.exists_isLeast_of_reading spaced shown
    have shown_then : zone.reading (wall.toUtc offset) = wall := least.1
    have offset_then := Zone.eq_offsetAt_of_reading shown_then
    have represented : (wall.toUtc offset).InRange := by
      rw [offset_then]
      exact within.toUtc_inRange interior _
    have in_range : (zone.reading (wall.toUtc offset)).InRange := by
      rw [shown_then]
      exact interior.inRange_of_near (by omega) (by omega)
    refine ⟨⟨wall, offset⟩, rfl, least, offset_then, ?_, ?_, ?_⟩
    · rw [lookup_eq, zoneAnswer_of_found found]
    · rw [fix_of_found known found represented]
    · exact (fixExisting_of_found known found represented in_range).trans
        (by rw [if_pos shown_then])
  · exact (Zone.showings_eq_empty_iff spaced _).mp ((Zone.forall_reading_ne_iff wall).mp never)
  · have never := (Zone.forall_reading_ne_iff wall).mpr (skips.showings_eq_empty spaced)
    refine ⟨never, ?_⟩
    have borrowed := skips.offsetForWall? spaced interior
    split_ifs at borrowed ⊢ with closes
    · rw [lookup_eq, zoneAnswer_of_missing borrowed]
      exact ⟨rfl, fixExisting_of_missing known borrowed⟩
    · rw [lookup_eq, zoneAnswer_of_found borrowed]
      have represented := within.toUtc_inRange interior (transition.instant - 1)
      have in_range := skips.reading_inRange spaced interior
      refine ⟨rfl, (fixExisting_of_found known borrowed represented in_range).trans ?_⟩
      rw [if_neg (never _)]

/-! ### The day that Apia skipped

On 30 December 2011 the wall clock of Apia was put forward by a day, at midnight. -/

namespace SkippedDay

/-- The transition by which 30 December 2011 was skipped. -/
def transition : Transition := ⟨1325239200, ⟨50400⟩⟩

/-- Noon on that day. -/
def noon : WallTime := (midnight ⟨15338⟩).shift 43200

/-- A quarter of a second into a leap second at the end of that day. -/
def leapSecond : WallTime where
  __ := (midnight ⟨15338⟩).shift 86399
  nanos := 1250000000
  nanos_lt := by decide

theorem zone_known : Catalogue.world.zone? "Pacific/Apia" = some Zone.apia := by rfl

theorem skips {wall : WallTime} (today : wall.date = ⟨15338⟩) :
    Zone.apia.Skips transition wall.seconds := by
  have before : Zone.apia.offsetBefore transition = ⟨-36000⟩ := by decide
  have := wall.secondOfDay_lt
  refine ⟨by decide, ?_, ?_⟩
  · rw [before, seconds, today]
    simp only [transition]
    omega
  · rw [seconds, today]
    simp only [transition]
    omega

/-- For noon on that day the offset of the day before is borrowed. -/
theorem noon_borrows :
    Catalogue.world.zone? "Pacific/Apia" = some Zone.apia ∧ Zone.apia.SpacedOut ∧
      Zone.apia.OffsetsWithinDay ∧ noon.Interior ∧ Zone.apia.Skips transition noon.seconds ∧
        (world.ask { clock := .wall, zone := "Pacific/Apia", time := noon }).1 = .ok ⟨-36000⟩ ∧
          (world.fixExisting "Pacific/Apia" noon).1 = .ok none := by
  have spaced := Catalogue.spacedOut_of_zone? zone_known
  have within : Zone.apia.OffsetsWithinDay := by decide
  have interior : noon.Interior := by decide
  obtain ⟨-, -, gaps⟩ := lookup_spec zone_known spaced within interior
  obtain ⟨-, outcome⟩ := gaps transition (skips rfl)
  rw [if_neg (by decide)] at outcome
  exact ⟨zone_known, spaced, within, interior, skips rfl, outcome⟩

/-- For the leap second no offset is found, although the offset before the gap is known. -/
theorem leapSecond_fails :
    Catalogue.world.zone? "Pacific/Apia" = some Zone.apia ∧ Zone.apia.SpacedOut ∧
      Zone.apia.OffsetsWithinDay ∧ leapSecond.Interior ∧
        (∀ utc, Zone.apia.reading utc ≠ leapSecond) ∧
          Zone.apia.Skips transition leapSecond.seconds ∧
            Zone.apia.offsetBefore transition = ⟨-36000⟩ ∧
              (world.ask { clock := .wall, zone := "Pacific/Apia", time := leapSecond }).1 =
                .error (.resolution "Pacific/Apia" (.noOffset leapSecond)) := by
  have spaced := Catalogue.spacedOut_of_zone? zone_known
  have skipped : Zone.apia.Skips transition leapSecond.seconds := skips rfl
  have never := (Zone.forall_reading_ne_iff _).mpr (skipped.showings_eq_empty spaced)
  exact ⟨zone_known, spaced, by decide, by decide, never, skipped, by decide, by rfl⟩

end SkippedDay

end Resolver

end Timetable
