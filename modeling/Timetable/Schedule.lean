import Timetable.Filter
import Timetable.Occurrence
import Timetable.Search

/-!
# Schedules

A schedule draws the occurrences of an expression on the wall clock of a zone,
one after the other.  The search gives candidates in ascending order, the filters
choose among them, and each one chosen is fixed to an instant; a reading that the
wall clock never shows is dropped.

When an offset cannot be found the fault is the next item and the occurrence
stays pending: it is tried again first, until it is fixed, dropped or skipped.
The same is left behind by a call that is broken off, which gives no item at all;
here it counts as an item that tells so.  When there is no candidate left the
schedule is finished for good.
-/

namespace Timetable

set_option autoImplicit false

/-- The occurrences of an expression on the wall clock of a zone. -/
structure Schedule (σ : Type) where
  /-- The expression as it was given. -/
  expression : String
  /-- The name of the zone. -/
  zone : String
  /-- The window on the wall clock of the zone. -/
  window : Window
  pattern : Pattern
  /-- The filters that candidates pass, that of the year being the last. -/
  filters : Chain
  resolver : Resolver σ
  search : Search
  /-- An occurrence that was chosen, but could not be fixed. -/
  pending : Option WallTime := none
  /-- Whether the sequence has ended. -/
  finished : Bool := false

/-! ## Candidates -/

namespace Search

/-- The next match that the filters let through, and the search behind it; none when the search
ends or a filter ends the sequence. -/
def nextAccepted (filters : Chain) (search : Search) : Option WallTime × Search :=
  match _ : search.next with
  | (none, rest) => (none, rest)
  | (some found, rest) =>
    match filters.decide found with
    | .accept => (some found, rest)
    | .reject => nextAccepted filters rest
    | .terminate => (none, rest)
termination_by search.remaining
decreasing_by exact remaining_lt_of_next ‹search.next = (some found, rest)›

/-- What holds of the search that draws the accepted match, and of a search whenever it holds of the
one behind a match that is rejected, holds of the search that began. -/
@[elab_as_elim]
theorem induction_of_nextAccepted {filters : Chain} {search rest : Search} {found : WallTime}
    {motive : Search → Prop} (drawn : search.nextAccepted filters = (some found, rest))
    (accepted : ∀ {search : Search}, search.next = (some found, rest) →
      filters.decide found = .accept → motive search)
    (rejected : ∀ {search behind : Search} {passed : WallTime},
      search.next = (some passed, behind) → filters.decide passed = .reject → motive behind →
        motive search) : motive search := by
  fun_induction nextAccepted filters search with
  | case1 => cases (Prod.mk.inj drawn).1
  | case2 search reached behind next accepts =>
    obtain ⟨same, rfl⟩ := Prod.mk.inj drawn
    obtain rfl := Option.some.inj same
    exact accepted next accepts
  | case3 search reached behind next rejects ih => exact rejected next rejects (ih drawn)
  | case4 => cases (Prod.mk.inj drawn).1

/-- An accepted match leaves less to search. -/
theorem remaining_lt_of_nextAccepted {filters : Chain} {search rest : Search} {found : WallTime}
    (next : search.nextAccepted filters = (some found, rest)) :
    rest.remaining < search.remaining := by
  refine induction_of_nextAccepted next ?_ ?_
  · exact fun drawn _ => remaining_lt_of_next drawn
  · exact fun drawn _ less => Nat.lt_trans less (remaining_lt_of_next drawn)

end Search

/-! ## Drawing occurrences -/

/-- What comes of one attempt to emit an occurrence. -/
inductive Event where
  /-- The occurrence was fixed to an instant. -/
  | fixed (zoned : Zoned)
  /-- The wall clock never shows the occurrence, which was dropped. -/
  | dropped (occurrence : WallTime)
  /-- The occurrence could not be fixed, and is pending. -/
  | failed (failure : Failure)
  /-- There is no occurrence left. -/
  | ended
  deriving DecidableEq

namespace Schedule

variable {σ τ : Type}

/-- An occurrence, or the failure to fix one: a fault that is reported, or a call broken off. -/
abbrev Item := Except Failure Zoned

/-- The attempt to fix an occurrence that was chosen. -/
def attempt (schedule : Schedule σ) (occurrence : WallTime) : Event × Schedule σ :=
  match schedule.resolver.fixExisting schedule.zone occurrence with
  | (.ok (some zoned), resolver) => (.fixed zoned, { schedule with resolver, pending := none })
  | (.ok none, resolver) => (.dropped occurrence, { schedule with resolver, pending := none })
  | (.error failure, resolver) =>
    (.failed failure, { schedule with resolver, pending := some occurrence })

/-- One attempt: with the pending occurrence, or else with the next accepted candidate.  Without
one the schedule is finished. -/
def advance (schedule : Schedule σ) : Event × Schedule σ :=
  if schedule.finished then (.ended, schedule)
  else
    match schedule.pending with
    | some occurrence => schedule.attempt occurrence
    | none =>
      match schedule.search.nextAccepted schedule.filters with
      | (none, search) => (.ended, { schedule with search, finished := true })
      | (some occurrence, search) => attempt { schedule with search } occurrence

/-- How much there is left to attempt: less after each occurrence that is dropped. -/
def remaining (schedule : Schedule σ) : Nat :=
  2 * schedule.search.remaining + if schedule.pending.isSome then 1 else 0

/-- A dropped occurrence is no longer pending, and nothing else of the schedule but its resolver
has changed. -/
theorem eq_of_attempt_dropped {schedule rest : Schedule σ} {occurrence dropped : WallTime}
    (attempted : schedule.attempt occurrence = (.dropped dropped, rest)) :
    rest = { schedule with resolver := rest.resolver, pending := none } := by
  simp only [attempt] at attempted
  split at attempted
  · cases attempted
  · cases attempted
    rfl
  · cases attempted

/-- A dropped occurrence leaves less to attempt. -/
theorem remaining_lt_of_dropped {schedule rest : Schedule σ} {dropped : WallTime}
    (advanced : schedule.advance = (.dropped dropped, rest)) :
    rest.remaining < schedule.remaining := by
  simp only [advance] at advanced
  split at advanced
  · cases advanced
  · split at advanced
    · rename_i occurrence pending
      rw [eq_of_attempt_dropped advanced]
      simp [remaining, pending]
    · split at advanced
      · cases advanced
      · rename_i occurrence search accepted
        rw [eq_of_attempt_dropped advanced]
        have := Search.remaining_lt_of_nextAccepted accepted
        simp only [remaining, Option.isSome_none, Bool.false_eq_true, if_false]
        omega

/-- The next item; occurrences that are dropped on the way are no items. -/
def next (schedule : Schedule σ) : Option Item × Schedule σ :=
  match _ : schedule.advance with
  | (.fixed zoned, rest) => (some (.ok zoned), rest)
  | (.failed failure, rest) => (some (.error failure), rest)
  | (.ended, rest) => (none, rest)
  | (.dropped _, rest) => next rest
termination_by schedule.remaining
decreasing_by exact remaining_lt_of_dropped (by assumption)

/-- The next items, up to `count` of them, and the schedule behind the last. -/
def take : Nat → Schedule σ → List Item × Schedule σ
  | 0, schedule => ([], schedule)
  | count + 1, schedule =>
    match schedule.next with
    | (none, schedule) => ([], schedule)
    | (some item, schedule) =>
      let (others, schedule) := take count schedule
      (item :: others, schedule)

/-- The pending occurrence, and the schedule without it. -/
def skipPending (schedule : Schedule σ) : Option WallTime × Schedule σ :=
  (schedule.pending, { schedule with pending := none })

/-- The schedule with another resolver, which is asked from then on. -/
def setResolver (schedule : Schedule σ) (resolver : Resolver τ) : Schedule τ :=
  { schedule with resolver }

end Schedule

end Timetable
