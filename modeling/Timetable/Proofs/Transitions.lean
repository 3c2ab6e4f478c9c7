import Mathlib.Data.List.Chain
import Mathlib.Order.Bounds.Basic
import Timetable.Proofs.Minutes
import Timetable.Zone

/-!
# Transitions that are spaced out

A zone is spaced out when its transitions are two days apart or more and none of them
moves the wall clock by more than a day.  Within two days there is then one change of
the offset at most (`Zone.exists_change`), and everything else follows from that: over
more than a day the wall clock always gains, so it is put back over readings that it
showed shortly before and never returns to one that it has skipped.

The lookup for a reading gives the first instant at which the wall clock shows it
(`Zone.offsetOnWall?_spec`).  No instant with that reading or a later one comes before
(`Zone.FirstShown.le_of_reading_le`), and so later readings have later first instants.
-/

namespace Timetable

set_option autoImplicit false

/-- Two days or more lie between two transitions. -/
abbrev Transition.Apart (earlier later : Transition) : Prop :=
  earlier.instant + 172800 ≤ later.instant

/-- Two offsets differ by a day at most. -/
abbrev Offset.Near (before after : Offset) : Prop :=
  -86400 ≤ after.seconds - before.seconds ∧ after.seconds - before.seconds ≤ 86400

namespace Zone

variable {zone : Zone}

/-! ## What the wall clock shows -/

/-- A zone whose transitions are two days apart or more, each of them moving the wall clock by a day
at most. -/
@[mk_iff]
structure SpacedOut (zone : Zone) : Prop where
  apart : zone.transitions.IsChain Transition.Apart
  modest : (zone.base :: zone.transitions.map Transition.offset).IsChain Offset.Near

instance (zone : Zone) : Decidable zone.SpacedOut := decidable_of_iff' _ zone.spacedOut_iff

/-- What the wall clock shows at an instant, in seconds. -/
def shownAt (zone : Zone) (utc : Int) : Int := utc + (zone.offsetAt utc).seconds

/-- The instants at which the wall clock shows a reading, in seconds. -/
def showings (zone : Zone) (wall : Int) : Set Int := {utc | zone.shownAt utc = wall}

/-! ## One change in two days -/

theorem offsetAmong_of_lt {current : Offset} {utc : Int} {transitions : List Transition}
    (before : ∀ first ∈ transitions.head?, utc < first.instant) :
    offsetAmong current utc transitions = current := by
  cases transitions with
  | nil => rfl
  | cons first later => rw [offsetAmong, if_pos (before first rfl)]

/-- Within two days the offset changes once at most, and by a day at most. -/
theorem exists_change_among {current : Offset} {transitions : List Transition}
    (apart : transitions.IsChain Transition.Apart)
    (modest : (current :: transitions.map Transition.offset).IsChain Offset.Near) (start : Int) :
    ∃ (change : Int) (before after : Offset), before.Near after ∧
        ∀ utc, start ≤ utc → utc ≤ start + 172800 →
          offsetAmong current utc transitions = if utc < change then before else after := by
  induction transitions generalizing current with
  | nil => exact ⟨start, current, current, by omega, fun utc _ _ => by rw [ite_self]; rfl⟩
  | cons transition later ih =>
    rw [List.map_cons, List.isChain_cons_cons] at modest
    have later_apart := (List.isChain_cons.mp apart).2
    by_cases passed : transition.instant ≤ start
    · obtain ⟨change, before, after, small, known⟩ := ih later_apart modest.2
      refine ⟨change, before, after, small, fun utc from_start to_end => ?_⟩
      rw [offsetAmong, if_neg (by omega), known utc from_start to_end]
    · refine ⟨transition.instant, current, transition.offset, modest.1, fun utc _ to_end => ?_⟩
      rw [offsetAmong]
      -- The transition after this one is two days later, and so not within the two days.
      have alone : offsetAmong transition.offset utc later = transition.offset := by
        apply offsetAmong_of_lt
        intro next at_head
        have := (List.isChain_cons.mp apart).1 next at_head
        omega
      rw [alone]

theorem exists_change (spaced : zone.SpacedOut) (start : Int) :
    ∃ change before after : Int, (-86400 ≤ after - before ∧ after - before ≤ 86400) ∧
      ∀ utc, start ≤ utc → utc ≤ start + 172800 →
        zone.shownAt utc = utc + if utc < change then before else after := by
  obtain ⟨change, before, after, small, known⟩ :=
    exists_change_among spaced.apart spaced.modest start
  refine ⟨change, before.seconds, after.seconds, small, fun utc from_start to_end => ?_⟩
  rw [shownAt, offsetAt, known utc from_start to_end]
  split_ifs <;> rfl

/-- Over more than a day the wall clock gains. -/
theorem shownAt_lt_of_day_passed (spaced : zone.SpacedOut) {early late : Int}
    (passed : early + 86400 < late) : zone.shownAt early < zone.shownAt late := by
  -- By steps of a day, over each of which the clock does not lose, until two days are left at most.
  induction span : (late - early).toNat using Nat.strong_induction_on generalizing early with
  | _ span ih =>
    obtain ⟨change, before, after, small, known⟩ := exists_change spaced early
    have here := known early (by omega) (by omega)
    by_cases near : late ≤ early + 172800
    · rw [here, known late (by omega) near]
      split_ifs <;> omega
    · have step := known (early + 86400) (by omega) (by omega)
      have rest := ih _ (by omega) (show early + 86400 + 86400 < late by omega) rfl
      have gained : zone.shownAt early ≤ zone.shownAt (early + 86400) := by
        rw [here, step]
        split_ifs <;> omega
      exact lt_of_le_of_lt gained rest

/-! ## Looking a reading up -/

/-- The instants from a transition on at which the wall clock shows a reading, in seconds. -/
def showingsFrom (current : Transition) (later : List Transition) (wall : Int) : Set Int :=
  {utc | current.instant ≤ utc ∧ utc + (offsetAmong current.offset utc later).seconds = wall}

theorem mem_showingsFrom (current : Transition) (later : List Transition) (wall utc : Int) :
    utc ∈ showingsFrom current later wall ↔
      current.instant ≤ utc ∧ utc + (offsetAmong current.offset utc later).seconds = wall := Iff.rfl

/-- From a transition on a reading is shown before the next one, by the offset that stands, or from
the next one on. -/
theorem mem_showingsFrom_cons {current next : Transition} (apart : current.Apart next)
    (later : List Transition) (wall utc : Int) :
    utc ∈ showingsFrom current (next :: later) wall ↔
      (current.instant ≤ utc ∧ utc < next.instant ∧ utc + current.offset.seconds = wall) ∨
        utc ∈ showingsFrom next later wall := by
  rw [mem_showingsFrom, mem_showingsFrom, offsetAmong]
  split_ifs <;> omega

/-- A lookup from a transition on gives the first instant from there on at which the wall clock
shows the reading. -/
theorem offsetOnWallFrom?_spec {current : Transition} {later : List Transition}
    (apart : (current :: later).IsChain Transition.Apart) (wall : Int) :
    match offsetOnWallFrom? current wall later with
    | none => showingsFrom current later wall = ∅
    | some offset => IsLeast (showingsFrom current later wall) (wall - offset.seconds) := by
  induction later generalizing current with
  | nil =>
    have mem := mem_showingsFrom current [] wall
    simp only [offsetAmong] at mem
    rw [offsetOnWallFrom?]
    split_ifs with reached
    · refine ⟨(mem _).mpr (by omega), fun utc member => ?_⟩
      rw [mem] at member
      omega
    · refine Set.eq_empty_of_forall_notMem fun utc member => ?_
      rw [mem] at member
      omega
  | cons next later ih =>
    rw [List.isChain_cons_cons] at apart
    have mem := mem_showingsFrom_cons apart.1 later wall
    rw [offsetOnWallFrom?]
    split_ifs with reached
    · refine ⟨(mem _).mpr (.inl (by omega)), fun utc member => ?_⟩
      rcases (mem utc).mp member with here | further
      · omega
      · have := further.1
        omega
    · have further : showingsFrom current (next :: later) wall = showingsFrom next later wall := by
        ext utc
        rw [mem, or_iff_right]
        omega
      rw [further]
      exact ih apart.2

/-- **A lookup gives the first instant at which the wall clock shows the reading**, and nothing when
the wall clock never shows it. -/
theorem offsetOnWall?_spec (spaced : zone.SpacedOut) (wall : Int) :
    match zone.offsetOnWall? wall with
    | none => zone.showings wall = ∅
    | some offset => IsLeast (zone.showings wall) (wall - offset.seconds) := by
  -- The offset in force at first is that of a transition before all that matters for the reading.
  obtain ⟨bound, low, before⟩ : ∃ bound : Int, bound + zone.base.seconds ≤ wall ∧
      ∀ first ∈ zone.transitions.head?, bound + 172800 ≤ first.instant := by
    cases zone.transitions with
    | nil => exact ⟨wall - zone.base.seconds, by omega, nofun⟩
    | cons first later =>
      refine ⟨min (wall - zone.base.seconds) (first.instant - 172800), by omega, ?_⟩
      rintro _ ⟨⟩
      omega
  have lookup : zone.offsetOnWall? wall =
      offsetOnWallFrom? ⟨bound, zone.base⟩ wall zone.transitions := by
    rw [offsetOnWall?]
    cases zone.transitions with
    | nil => exact (if_pos low).symm
    | cons first later => simp only [offsetOnWallFrom?, low, and_true]
  have all_from : zone.showings wall = showingsFrom ⟨bound, zone.base⟩ zone.transitions wall := by
    ext utc
    refine ⟨fun shown => ⟨?_, shown⟩, fun shown => shown.2⟩
    by_contra not_after
    have below : utc < bound := not_le.mp not_after
    have early : zone.offsetAt utc = zone.base := by
      apply offsetAmong_of_lt
      intro first at_head
      have := before first at_head
      omega
    change utc + (zone.offsetAt utc).seconds = wall at shown
    rw [early] at shown
    omega
  rw [lookup, all_from]
  exact offsetOnWallFrom?_spec (List.isChain_cons.mpr ⟨before, spaced.apart⟩) wall

/-! ## Readings shown again -/

/-- A reading that the clock was put back to was shown before. -/
theorem exists_earlier_showing (spaced : zone.SpacedOut) {early late : Int} (order : early < late)
    (back : zone.shownAt late ≤ zone.shownAt early) :
    ∃ utc < late, zone.shownAt utc = zone.shownAt late := by
  have near : late ≤ early + 86400 := by
    by_contra far
    exact not_lt_of_ge back (shownAt_lt_of_day_passed spaced (by omega))
  have bounded : zone.shownAt early - zone.shownAt late ≤ 86400 - (late - early) := by
    obtain ⟨change, before, after, small, known⟩ := exists_change spaced early
    rw [known early (by omega) (by omega), known late (by omega) (by omega)]
    split_ifs <;> omega
  -- The reading was shown as long before `early` as the clock is put back.
  refine ⟨early - (zone.shownAt early - zone.shownAt late), by omega, ?_⟩
  obtain ⟨change, before, after, -, known⟩ :=
    exists_change spaced (early - (zone.shownAt early - zone.shownAt late))
  have at_early := known early (by omega) (by omega)
  have at_late := known late (by omega) (by omega)
  rw [known _ (by omega) (by omega)]
  split_ifs at * <;> omega

/-- A reading that the clock was put back over, or to, is shown again. -/
theorem exists_later_showing (spaced : zone.SpacedOut) {early late : Int} (order : early < late)
    (back : zone.shownAt late ≤ zone.shownAt early) :
    ∃ utc, late ≤ utc ∧ zone.shownAt utc = zone.shownAt early := by
  have near : late ≤ early + 86400 := by
    by_contra far
    exact not_lt_of_ge back (shownAt_lt_of_day_passed spaced (by omega))
  refine ⟨late + (zone.shownAt early - zone.shownAt late), by omega, ?_⟩
  obtain ⟨change, before, after, small, known⟩ := exists_change spaced early
  have at_early := known early (by omega) (by omega)
  have at_late := known late (by omega) (by omega)
  rw [known _ (by omega) (by split_ifs at * <;> omega)]
  split_ifs at * <;> omega

/-! ## Readings of instants -/

/-- What the wall clock shows at an instant. -/
def reading (zone : Zone) (utc : WallTime) : WallTime := utc.onWall (zone.offsetAt utc.seconds)

theorem seconds_reading (zone : Zone) (utc : WallTime) :
    (zone.reading utc).seconds = zone.shownAt utc.seconds := WallTime.seconds_shift _ _

theorem nanos_reading (zone : Zone) (utc : WallTime) : (zone.reading utc).nanos = utc.nanos := rfl

/-- A reading whose seconds are shown is itself shown, within the same second. -/
theorem exists_reading_eq {wall : WallTime} {utc : Int} (shown : zone.shownAt utc = wall.seconds) :
    ∃ instant : WallTime, instant.seconds = utc ∧ zone.reading instant = wall := by
  have same : (wall.shift (utc - wall.seconds)).seconds = utc := by
    rw [WallTime.seconds_shift]
    omega
  refine ⟨wall.shift (utc - wall.seconds), same, ?_⟩
  apply WallTime.eq_of_seconds
  · rw [seconds_reading, same, shown]
  · rfl

/-- Within whole seconds the order of readings is that of the instants. -/
theorem le_of_seconds_le {early late : WallTime} (order : early.seconds ≤ late.seconds)
    (readings : zone.reading early ≤ zone.reading late) : early ≤ late := by
  rw [WallTime.le_iff, seconds_reading, seconds_reading, nanos_reading, nanos_reading] at readings
  rw [WallTime.le_iff]
  rcases lt_or_eq_of_le order with before | same
  · exact .inl before
  · rw [same] at readings
    exact .inr ⟨same, by omega⟩

/-- An instant at which the wall clock shows its reading for the first time. -/
def FirstShown (zone : Zone) (utc : WallTime) : Prop :=
  ∀ earlier < utc, zone.reading earlier ≠ zone.reading utc

theorem firstShown_of_isLeast {utc : WallTime}
    (least : IsLeast (zone.showings (zone.reading utc).seconds) utc.seconds) :
    zone.FirstShown utc := by
  intro earlier before same
  have not_before : utc.seconds ≤ earlier.seconds := by
    apply least.2
    rw [← same, seconds_reading]
    rfl
  exact le_of_seconds_le not_before (le_of_eq same.symm) before

/-- A clock that was put back was put back by whole seconds. -/
theorem seconds_lt_of_put_back {early late : WallTime} (order : early < late)
    (back : zone.reading late ≤ zone.reading early) : early.seconds < late.seconds := by
  by_contra not_before
  exact le_of_seconds_le (not_lt.mp not_before) back order

theorem shownAt_le_of_reading_le {early late : WallTime}
    (back : zone.reading late ≤ zone.reading early) :
    zone.shownAt late.seconds ≤ zone.shownAt early.seconds := by
  rw [WallTime.le_iff, seconds_reading, seconds_reading] at back
  omega

/-- **An instant that is the first with its reading is not after any other with that reading or a
later one.** -/
theorem FirstShown.le_of_reading_le (spaced : zone.SpacedOut) {first utc : WallTime}
    (first_shown : zone.FirstShown first) (order : zone.reading first ≤ zone.reading utc) :
    first ≤ utc := by
  intro before
  obtain ⟨earlier, passed, shown⟩ := exists_earlier_showing spaced
    (seconds_lt_of_put_back before order) (shownAt_le_of_reading_le order)
  obtain ⟨instant, rfl, same⟩ := exists_reading_eq (shown.trans (zone.seconds_reading first).symm)
  exact first_shown instant ((WallTime.lt_iff _ _).mpr (.inl passed)) same

/-- The reading of an instant after which the clock was put back to it, or over it, is shown
again. -/
theorem exists_later_reading (spaced : zone.SpacedOut) {early late : WallTime}
    (order : early < late) (back : zone.reading late ≤ zone.reading early) :
    ∃ again, late ≤ again ∧ zone.reading again = zone.reading early := by
  obtain ⟨later, passed, shown⟩ := exists_later_showing spaced
    (seconds_lt_of_put_back order back) (shownAt_le_of_reading_le back)
  obtain ⟨again, rfl, same⟩ := exists_reading_eq (shown.trans (zone.seconds_reading early).symm)
  exact ⟨again, le_of_seconds_le passed (by rwa [same]), same⟩

end Zone

end Timetable
