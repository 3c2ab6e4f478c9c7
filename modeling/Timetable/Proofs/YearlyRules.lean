import Timetable.Proofs.Days
import Timetable.Proofs.Transitions
import Timetable.Zone.Catalogue

/-!
# Zones whose clock changes twice a year

Most zones end with two rules, one for spring and one for autumn, which stand for two
transitions in each of many years.  A rule changes the clock within its month, or on
the day before it (`YearlyRule.Regular.transition_within`).  So the transitions of two
rules that have a month between them are weeks apart, and a zone that is spaced out stays so
when the rules are added (`Zone.SpacedOut.withRules`).
-/

namespace Timetable

open Calendar

set_option autoImplicit false

namespace Calendar

/-! ## Months in their order -/

theorem monthStart_le_monthStart (year : Int) {early late : Nat} (from_january : 1 ≤ early)
    (order : early ≤ late) : monthStart year early ≤ monthStart year late := by
  induction late, order using Nat.le_induction with
  | base => exact le_rfl
  | succ late order ih =>
    have next := monthStart_succ year (from_january.trans order)
    omega

theorem monthStart_one (year : Int) : monthStart year 1 = yearStart year := by
  simp [monthStart, extent_nil]

/-- The month behind the last one of a year is the first of the next. -/
theorem monthStart_thirteen (year : Int) : monthStart year 13 = monthStart (year + 1) 1 := by
  rw [monthStart_one, yearStart_succ, ← extent_monthLengths, monthStart]
  cases isLeap year <;> rfl

end Calendar

/-! ## Rules -/

namespace Sunday

/-- One of the Sundays that every month has. -/
def InEveryMonth : Sunday → Prop
  | nth count => 1 ≤ count ∧ count ≤ 4
  | last => True

instance : ∀ sunday : Sunday, Decidable sunday.InEveryMonth
  | nth count => inferInstanceAs (Decidable (1 ≤ count ∧ count ≤ 4))
  | last => inferInstanceAs (Decidable True)

/-- Such a Sunday lies in its month. -/
theorem date_within {sunday : Sunday} (regular : sunday.InEveryMonth) (year : Int) {month : Nat}
    (from_january : 1 ≤ month) (to_december : month ≤ 12) :
    monthStart year month ≤ (sunday.date year month).number ∧
      (sunday.date year month).number < monthStart year (month + 1) := by
  have next := monthStart_succ year from_january
  have long := four_weeks_le_monthLength year from_january to_december
  cases sunday with
  | nth count =>
    obtain ⟨first, fourth⟩ := regular
    simp only [date, Date.weekday]
    omega
  | last =>
    simp only [date, Date.weekday]
    omega

end Sunday

namespace YearlyRule

/-- A rule for a Sunday that every month has, or for the Saturday before it. -/
@[mk_iff]
structure Regular (rule : YearlyRule) : Prop where
  from_january : 1 ≤ rule.month
  to_december : rule.month ≤ 12
  sunday : rule.sunday.InEveryMonth
  saturday : -1 ≤ rule.days
  no_later : rule.days ≤ 0
  hour : rule.hour < 24
  minute : rule.minute < 60

instance (rule : YearlyRule) : Decidable rule.Regular := decidable_of_iff' _ rule.regular_iff

/-- The clock is changed in the month of the rule, or on the day before that begins. -/
theorem Regular.transition_within {rule : YearlyRule} (regular : rule.Regular) (year : Int) :
    (monthStart year rule.month - 1) * 86400 ≤ (rule.transition year).instant ∧
      (rule.transition year).instant < monthStart year (rule.month + 1) * 86400 := by
  obtain ⟨from_january, to_december, sunday, saturday, no_later, hour, minute⟩ := regular
  obtain ⟨begun, not_over⟩ := Sunday.date_within sunday year from_january to_december
  simp only [transition]
  omega

/-- Two rules for each year, with a month between them and none for January. -/
@[mk_iff]
structure Halves (early late : YearlyRule) : Prop where
  early_regular : early.Regular
  late_regular : late.Regular
  after_january : 2 ≤ early.month
  month_between : early.month + 2 ≤ late.month
  near : Offset.Near early.offset late.offset

instance (early late : YearlyRule) : Decidable (Halves early late) :=
  decidable_of_iff' _ (halves_iff early late)

variable {early late : YearlyRule}

theorem Halves.apart (halves : Halves early late) (year : Int) :
    Transition.Apart (early.transition year) (late.transition year) := by
  obtain ⟨-, early_over⟩ := halves.early_regular.transition_within year
  obtain ⟨late_begun, -⟩ := halves.late_regular.transition_within year
  have between := monthStart_succ year (show 1 ≤ early.month + 1 by omega)
  have long := four_weeks_le_monthLength year (show 1 ≤ early.month + 1 by omega)
    (by have := halves.month_between; have := halves.late_regular.to_december; omega)
  have order := monthStart_le_monthStart year (show 1 ≤ early.month + 1 + 1 by omega)
    halves.month_between
  simp only [Transition.Apart]
  omega

theorem Halves.apart_next (halves : Halves early late) (year : Int) :
    Transition.Apart (late.transition year) (early.transition (year + 1)) := by
  obtain ⟨-, late_over⟩ := halves.late_regular.transition_within year
  obtain ⟨early_begun, -⟩ := halves.early_regular.transition_within (year + 1)
  have year_over := monthStart_le_monthStart year (show 1 ≤ late.month + 1 by omega)
    (Nat.succ_le_succ halves.late_regular.to_december)
  have january := monthStart_succ (year + 1) le_rfl
  have long := four_weeks_le_monthLength (year + 1) le_rfl (show 1 ≤ 12 by omega)
  have order := monthStart_le_monthStart (year + 1) (show 1 ≤ 1 + 1 by omega)
    halves.after_january
  rw [monthStart_thirteen] at year_over
  simp only [Transition.Apart]
  omega

/-- The transitions of two rules in some years. -/
def transitions (early late : YearlyRule) (years : List Nat) : List Transition :=
  years.flatMap fun year : Nat => [early.transition year, late.transition year]

/-- The transitions of some years on end are spaced out, whatever the year they begin with. -/
theorem Halves.isChain (halves : Halves early late) (first count : Nat) :
    (transitions early late (List.range' first count)).IsChain fun earlier later =>
      Transition.Apart earlier later ∧ Offset.Near earlier.offset later.offset := by
  have near := halves.near
  -- Behind the late rule of the first year comes the early one of the next, if there is a next.
  induction count generalizing first with
  | zero => exact .nil
  | succ count ih =>
    have rest := ih (first + 1)
    rw [List.range'_succ, transitions, List.flatMap_cons, ← transitions]
    refine List.isChain_cons_cons.mpr ⟨⟨halves.apart first, near⟩, ?_⟩
    cases count with
    | zero => exact .singleton _
    | succ count =>
      rw [List.range'_succ, transitions, List.flatMap_cons, ← transitions] at rest ⊢
      exact List.isChain_cons_cons.mpr
        ⟨⟨by exact_mod_cast halves.apart_next first, by simp only [transition]; omega⟩, rest⟩

end YearlyRule

namespace Zone

/-- Two rules go on where the history of a zone ends. -/
@[mk_iff]
structure GoesOn (zone : Zone) (first : Nat) (early late : YearlyRule) : Prop where
  halves : YearlyRule.Halves early late
  apart : ∀ transition ∈ zone.transitions.getLast?,
    Transition.Apart transition (early.transition first)
  near : ∀ offset ∈ (zone.base :: zone.transitions.map Transition.offset).getLast?,
    Offset.Near offset early.offset

instance (zone : Zone) (first : Nat) (early late : YearlyRule) :
    Decidable (zone.GoesOn first early late) :=
  decidable_of_iff' _ (zone.goesOn_iff first early late)

/-- A zone that is spaced out stays so when two rules go on from its last transition. -/
theorem SpacedOut.withRules {zone : Zone} {first last : Nat} {early late : YearlyRule}
    (spaced : zone.SpacedOut) (goes_on : zone.GoesOn first early late) :
    (zone.withRules first last [early, late]).SpacedOut := by
  have added := goes_on.halves.isChain first (last + 1 - first)
  have begins : ∀ transition ∈
      (YearlyRule.transitions early late (List.range' first (last + 1 - first))).head?,
        transition = early.transition first := by
    cases last + 1 - first with
    | zero => nofun
    | succ count => rintro _ ⟨⟩; rfl
  constructor
  · show (zone.transitions ++ YearlyRule.transitions early late _).IsChain _
    refine spaced.apart.append (added.imp fun _ _ both => both.1) fun before member after here => ?_
    rw [begins after here]
    exact goes_on.apart before member
  · show (zone.base :: (zone.transitions ++ YearlyRule.transitions early late _).map _).IsChain _
    rw [List.map_append, ← List.cons_append]
    refine spaced.modest.append ((List.isChain_map _).mpr (added.imp fun _ _ both => both.2))
      fun before member after here => ?_
    rw [List.head?_map] at here
    obtain ⟨transition, at_head, rfl⟩ := Option.map_eq_some_iff.mp here
    rw [begins transition at_head]
    exact goes_on.near before member

end Zone

/-! ## The zones of the world -/

section World

-- The longest history has more than eighty transitions, which are gone through one by one.
set_option maxRecDepth 2000

theorem Zone.newYork_spacedOut : newYork.SpacedOut := .withRules (by decide) (by decide)

theorem Zone.stJohns_spacedOut : stJohns.SpacedOut := .withRules (by decide) (by decide)

theorem Zone.sydney_spacedOut : sydney.SpacedOut := .withRules (by decide) (by decide)

theorem Zone.lordHowe_spacedOut : lordHowe.SpacedOut := .withRules (by decide) (by decide)

theorem Zone.troll_spacedOut : troll.SpacedOut := .withRules (by decide) (by decide)

theorem Zone.berlin_spacedOut : berlin.SpacedOut := .withRules (by decide) (by decide)

theorem Zone.dublin_spacedOut : dublin.SpacedOut := .withRules (by decide) (by decide)

theorem Zone.london_spacedOut : london.SpacedOut := .withRules (by decide) (by decide)

theorem Zone.madrid_spacedOut : madrid.SpacedOut := .withRules (by decide) (by decide)

theorem Zone.paris_spacedOut : paris.SpacedOut := .withRules (by decide) (by decide)

/-- The zones that are known by name are spaced out. -/
theorem Catalogue.spacedOut_of_zone? {name : String} {zone : Zone}
    (known : Catalogue.world.zone? name = some zone) : zone.SpacedOut := by
  have all : ∀ entry ∈ world, entry.2.SpacedOut := by
    simp only [world, List.forall_mem_cons]
    exact ⟨by decide, by decide, Zone.newYork_spacedOut, by decide, Zone.stJohns_spacedOut,
      Zone.troll_spacedOut, by decide, by decide, by decide, by decide,
      Zone.lordHowe_spacedOut, Zone.sydney_spacedOut, by decide, by decide, Zone.berlin_spacedOut,
      Zone.dublin_spacedOut, Zone.london_spacedOut, Zone.madrid_spacedOut, Zone.paris_spacedOut,
      Zone.berlin_spacedOut, by decide, by decide, by decide, Zone.newYork_spacedOut, by decide,
      List.forall_mem_nil _⟩
  obtain ⟨before, after, split, -⟩ := List.lookup_eq_some_iff.mp known
  apply all (name, zone)
  rw [split]
  exact List.mem_append_right _ List.mem_cons_self

end World

end Timetable
