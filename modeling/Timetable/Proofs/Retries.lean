import Timetable.Proofs.Histories

/-!
# Failures can be retried

An occurrence cannot be fixed when the resolver does not know the offset for its reading or
for its instant (`Resolver.LookupFails`), and when no clock can show that instant or what the wall
clock would show then (`Resolver.LeavesRange`).  In the last case the call is broken off; in the
others there is a fault, and whatever fault the resolver reported, that of the schedule is a
failure to resolve a zone.

A call that fails takes nothing from the list ahead but what it dropped on its way.  The
occurrence that it failed on is pending, and the next call begins with that one: no candidate
is drawn and no filter asked.  When it fails again, nothing has changed but the memory of the
resolver (`Schedule.retry_of_failed`).
-/

namespace Timetable

open WallTime

set_option autoImplicit false

theorem Fault.exists_asResolution_eq (zone : String) (fault : Fault) :
    ∃ failed obstacle, fault.asResolution zone = .resolution failed obstacle := by
  cases fault with
  | resolution failed obstacle => exact ⟨failed, obstacle, rfl⟩
  | _ => exact ⟨zone, .reported _, rfl⟩

namespace Resolver

variable {σ : Type} {resolver later : Resolver σ} {zone : String} {wall : WallTime}
  {failure : Failure}

/-! ## Why an occurrence cannot be fixed -/

/-- A lookup reports a fault when a reading of the wall clock of a zone is to be fixed; `later` is
the resolver after it. -/
inductive LookupFails (resolver : Resolver σ) (zone : String) (wall : WallTime) :
    Fault → Resolver σ → Prop where
  /-- The offset for the reading is not known. -/
  | wall {fault : Fault} {later : Resolver σ}
      (asked : resolver.ask { clock := .wall, zone, time := wall } = (.error fault, later)) :
      LookupFails resolver zone wall fault later
  /-- The offset for the instant of the reading is not known. -/
  | utc {offset : Offset} {fault : Fault} {placed later : Resolver σ}
      (asked : resolver.ask { clock := .wall, zone, time := wall } = (.ok offset, placed))
      (shown : (wall.toUtc offset).InRange)
      (looked : placed.ask { clock := .utc, zone, time := wall.toUtc offset } =
        (.error fault, later)) :
      LookupFails resolver zone wall fault later

/-- An offset leads out of the range of clocks when a reading of the wall clock of a zone is to be
fixed; `later` is the resolver after the lookups. -/
inductive LeavesRange (resolver : Resolver σ) (zone : String) (wall : WallTime) :
    Failure → Resolver σ → Prop where
  /-- No clock can show the instant, which is reported. -/
  | hidden {offset : Offset} {later : Resolver σ}
      (asked : resolver.ask { clock := .wall, zone, time := wall } = (.ok offset, later))
      (beyond : ¬ (wall.toUtc offset).InRange) :
      LeavesRange resolver zone wall (.fault (.resolution zone (.unrepresentable wall offset)))
        later
  /-- No clock can show what the wall clock shows at the instant, and the call is broken off. -/
  | overrun {offset back : Offset} {placed later : Resolver σ}
      (asked : resolver.ask { clock := .wall, zone, time := wall } = (.ok offset, placed))
      (shown : (wall.toUtc offset).InRange)
      (looked : placed.ask { clock := .utc, zone, time := wall.toUtc offset } = (.ok back, later))
      (beyond : ¬ ((wall.toUtc offset).onWall back).InRange) :
      LeavesRange resolver zone wall .overrun later

/-- A reading of the wall clock of a zone cannot be fixed; `later` is the resolver after the
lookups. -/
inductive Refuses (resolver : Resolver σ) (zone : String) (wall : WallTime) :
    Failure → Resolver σ → Prop where
  /-- A lookup fails. -/
  | lookup {reported : Fault} {later : Resolver σ}
      (fails : resolver.LookupFails zone wall reported later) :
      Refuses resolver zone wall (.fault (reported.asResolution zone)) later
  /-- An offset leads out of the range of clocks. -/
  | range {failure : Failure} {later : Resolver σ}
      (leaves : resolver.LeavesRange zone wall failure later) :
      Refuses resolver zone wall failure later

/-- Every fault met while fixing an occurrence is a failure to resolve a zone. -/
theorem Refuses.exists_eq_resolution {fault : Fault}
    (refuses : resolver.Refuses zone wall (.fault fault) later) :
    ∃ failed obstacle, fault = .resolution failed obstacle := by
  cases refuses with
  | lookup => exact Fault.exists_asResolution_eq zone _
  | range leaves =>
    cases leaves
    exact ⟨_, _, rfl⟩

/-- **An occurrence cannot be fixed when a lookup fails, or when its instant or what the wall clock
shows then cannot be shown.** -/
theorem fixExisting_eq_error_iff :
    resolver.fixExisting zone wall = (.error failure, later) ↔
      resolver.Refuses zone wall failure later := by
  constructor
  · intro failed
    rw [fixExisting, fix] at failed
    rcases asked : resolver.ask { clock := .wall, zone, time := wall } with
      ⟨reported | offset, placed⟩
    · rw [asked] at failed
      cases failed
      exact .lookup (.wall asked)
    · rw [asked] at failed
      by_cases shown : (wall.toUtc offset).InRange
      · simp only [zonedAt, if_pos shown, wallAt, Zoned.utc] at failed
        rcases looked : placed.ask { clock := .utc, zone, time := wall.toUtc offset } with
          ⟨reported | own, behind⟩
        · rw [looked] at failed
          cases failed
          exact .lookup (.utc asked shown looked)
        · by_cases in_range : ((wall.toUtc offset).onWall own).InRange
          · simp only [looked, readingAt_of_inRange in_range] at failed
            cases failed
          · simp only [looked, readingAt_of_not_inRange in_range] at failed
            cases failed
            exact .range (.overrun asked shown looked in_range)
      · simp only [zonedAt, if_neg shown] at failed
        cases failed
        exact .range (.hidden asked shown)
  · intro refuses
    rcases refuses with (asked | ⟨asked, shown, looked⟩) | (⟨asked, beyond⟩ |
      ⟨asked, shown, looked, beyond⟩)
    · simp only [fixExisting, fix, asked]
    · simp only [fixExisting, fix, asked, zonedAt, if_pos shown, wallAt, Zoned.utc, looked,
        Failure.reword_fault]
    · simp only [fixExisting, fix, asked, zonedAt, if_neg beyond]
    · simp only [fixExisting, fix, asked, zonedAt, if_pos shown, wallAt, Zoned.utc, looked,
        readingAt_of_not_inRange beyond, Failure.reword_overrun]

/-- The resolver after attempts with occurrences, one after the other. -/
def afterFixing (zone : String) (resolver : Resolver σ) : List WallTime → Resolver σ
  | [] => resolver
  | occurrence :: others => afterFixing zone (resolver.fixExisting zone occurrence).2 others

end Resolver

namespace Schedule

variable {σ τ : Type} {schedule rest : Schedule σ} {occurrence : WallTime}
  {failure : Failure}

/-! ## One attempt -/

/-- An occurrence that is fixed is no longer pending. -/
theorem pending_of_fixed {zoned : Zoned}
    (advanced : schedule.advance = (.fixed zoned, rest)) : rest.pending = none := by
  have spec := schedule.advance_spec
  rw [advanced] at spec
  obtain ⟨list, fixed, -⟩ := spec
  obtain ⟨-, search, -, attempt⟩ := advance_of_ahead_eq_cons list
  rw [advanced, Schedule.attempt, fixed] at attempt
  rw [(Prod.mk.inj attempt).2]

/-- A drop changes the search and the resolver, and nothing is pending behind it. -/
theorem eq_of_advance_dropped (advanced : schedule.advance = (.dropped occurrence, rest)) :
    rest = { schedule with search := rest.search, resolver := rest.resolver, pending := none } := by
  have spec := schedule.advance_spec
  rw [advanced] at spec
  obtain ⟨list, -⟩ := spec
  obtain ⟨-, search, -, attempted⟩ := advance_of_ahead_eq_cons list
  rw [advanced] at attempted
  have parts := eq_of_attempt_dropped attempted.symm
  rw [parts]

/-- A failure leaves the occurrence pending that it was met with, the first of the list ahead, and
changes nothing else but the search and the resolver. -/
theorem eq_of_advance_failed (advanced : schedule.advance = (.failed failure, rest)) :
    rest.finished = false ∧ rest.ahead = schedule.ahead ∧
      ∃ occurrence, schedule.resolver.Refuses schedule.zone occurrence failure rest.resolver ∧
        rest = { schedule with
          search := rest.search, resolver := rest.resolver, pending := some occurrence } := by
  have spec := schedule.advance_spec
  rw [advanced] at spec
  obtain ⟨occurrence, later, list, failed, still, -, running⟩ := spec
  obtain ⟨-, search, -, attempted⟩ := advance_of_ahead_eq_cons list
  rw [advanced, attempt, failed] at attempted
  refine ⟨running, still, occurrence, Resolver.fixExisting_eq_error_iff.mp failed, ?_⟩
  have parts := (Prod.mk.inj attempted).2
  rw [parts]

/-! ## The call after a failure -/

/-- **A call begins with the pending occurrence**, whose fixing alone decides what follows: the
occurrence is emitted, or the call goes on without it, or it stays pending.  The search and the
filters have no part in that. -/
theorem next_of_pending (running : schedule.finished = false)
    (pending : schedule.pending = some occurrence) :
    schedule.next =
      match schedule.resolver.fixExisting schedule.zone occurrence with
      | (.ok (some zoned), resolver) =>
        (some (.ok zoned), { schedule with resolver, pending := none })
      | (.ok none, resolver) => next { schedule with resolver, pending := none }
      | (.error failure, resolver) => (some (.error failure), { schedule with resolver }) := by
  have advanced : schedule.advance = schedule.attempt occurrence := by
    simp only [advance, running, pending, Bool.false_eq_true, if_false]
  rw [attempt] at advanced
  rcases answer : schedule.resolver.fixExisting schedule.zone occurrence with
    ⟨failure | (_ | zoned), resolver⟩
  · rw [answer] at advanced
    rw [next, advanced, ← pending]
  · rw [answer] at advanced
    rw [next, advanced]
  · rw [answer] at advanced
    rw [next, advanced]

/-- What a call that fails leaves behind: the occurrences that it dropped are settled, and the one
that it failed on is pending. -/
theorem pending_of_failed (failed : schedule.next.1 = some (.error failure)) :
    schedule.next.2.finished = false ∧
      schedule.drops ++ schedule.next.2.ahead = schedule.ahead ∧
        ∃ occurrence,
          (schedule.resolver.afterFixing schedule.zone schedule.drops).Refuses schedule.zone
              occurrence failure schedule.next.2.resolver ∧
            schedule.next.2 = { schedule with
              search := schedule.next.2.search, resolver := schedule.next.2.resolver,
              pending := some occurrence } := by
  fun_induction next schedule with
  | case1 => cases failed
  | case2 schedule reported rest advanced =>
    cases failed
    obtain ⟨running, still, occurrence, refuses, parts⟩ := eq_of_advance_failed advanced
    rw [(call_of_failed advanced).2]
    exact ⟨running, still, occurrence, refuses, parts⟩
  | case3 => cases failed
  | case4 schedule occurrence rest advanced ih =>
    have dropped := (call_of_dropped advanced).2
    have spec := schedule.advance_spec
    rw [advanced] at spec
    obtain ⟨list, answer, zone, -⟩ := spec
    have asked : (schedule.resolver.fixExisting schedule.zone occurrence).2 = rest.resolver := by
      rw [answer]
    obtain ⟨running, still, stuck, refuses, parts⟩ := ih failed
    refine ⟨running, ?_, stuck, ?_, ?_⟩
    · rw [dropped, list, ← still]
      rfl
    · rw [dropped, Resolver.afterFixing, asked, ← zone]
      exact refuses
    · generalize rest.next.2 = behind at parts ⊢
      rw [eq_of_advance_dropped advanced] at parts
      exact parts

/-- Behind a call that fails the pending occurrence is the first of the list ahead. -/
theorem head?_ahead_of_failed (failed : schedule.next.1 = some (.error failure)) :
    schedule.next.2.ahead.head? = schedule.next.2.pending := by
  obtain ⟨running, -, occurrence, -, parts⟩ := pending_of_failed failed
  have pending : schedule.next.2.pending = some occurrence := by rw [parts]
  rw [ahead, running, pending]
  rfl

/-- **Nothing is pending behind a call exactly when the call did not fail.** -/
theorem pending_next_eq_none_iff (idle : schedule.Idle) :
    schedule.next.2.pending = none ↔ ∀ failure, schedule.next.1 ≠ some (.error failure) := by
  constructor
  · intro nothing failure failed
    obtain ⟨-, -, occurrence, -, parts⟩ := pending_of_failed failed
    rw [parts] at nothing
    cases nothing
  · intro no_failure
    fun_induction next schedule with
    | case1 schedule zoned rest advanced => exact pending_of_fixed advanced
    | case2 schedule failure rest advanced => exact absurd rfl (no_failure failure)
    | case3 schedule rest advanced =>
      have spec := schedule.advance_spec
      rw [advanced] at spec
      rw [spec.2]
      show schedule.pending = none
      exact pending_of_ahead_eq_nil idle spec.1
    | case4 schedule occurrence rest advanced ih =>
      have spec := schedule.advance_spec
      rw [advanced] at spec
      exact ih (.of_running spec.2.2.2) no_failure

/-- **A failed call can be made again.**  It was met with an occurrence of the list ahead, and its
fault, if it reports one, is a failure to resolve a zone.  The occurrences before were dropped, that
one is pending, and the schedule is not finished.  The next call, with any resolver, begins with
that occurrence; when it fails again, the schedule is as it was. -/
theorem retry_of_failed (failed : schedule.next.1 = some (.error failure)) :
    (∀ fault, failure = .fault fault → ∃ zone obstacle, fault = .resolution zone obstacle) ∧
      schedule.next.2.finished = false ∧ schedule.drops ++ schedule.next.2.ahead = schedule.ahead ∧
        ∃ occurrence,
          (schedule.resolver.afterFixing schedule.zone schedule.drops).Refuses schedule.zone
              occurrence failure schedule.next.2.resolver ∧
            schedule.next.2 = { schedule with
              search := schedule.next.2.search, resolver := schedule.next.2.resolver,
              pending := some occurrence } ∧
              ∀ {τ : Type} (resolver : Resolver τ),
                let retried := schedule.next.2.setResolver resolver
                retried.next =
                  match resolver.fixExisting schedule.zone occurrence with
                  | (.ok (some zoned), resolver) =>
                    (some (.ok zoned), { retried with resolver, pending := none })
                  | (.ok none, resolver) => next { retried with resolver, pending := none }
                  | (.error again, resolver) =>
                    (some (.error again), retried.setResolver resolver) := by
  obtain ⟨running, left, occurrence, refuses, parts⟩ := pending_of_failed failed
  refine ⟨?_, running, left, occurrence, refuses, parts, ?_⟩
  · rintro fault rfl
    exact refuses.exists_eq_resolution
  intro τ resolver retried
  have pending : retried.pending = some occurrence := by
    show schedule.next.2.pending = some occurrence
    rw [parts]
  have zone : retried.zone = schedule.zone := by
    show schedule.next.2.zone = schedule.zone
    rw [parts]
  rw [← zone]
  exact next_of_pending running pending

namespace SpringForward

/-- The second query for the wall clock fails. -/
def secondQuery : Clock → Nat → Option Fault
  | .wall, 1 => some (.zoneUnknown "Europe/London")
  | _, _ => none

/-- Half past one on the last days of March and May. -/
def optionsOfTwoMonths : Options := { options with expression := "30 1 31 MAR,MAY * 2024" }

def patternOfTwoMonths : Pattern :=
  { pattern with
    monthDays := .only (.single 31)
    months := .only ⟨#[3, 5], by decide, by decide⟩ }

/-- The schedule that drops the end of March and fails to fix the end of May. -/
def ofTwoMonths : Schedule (Resolver.Tally × Unit) :=
  ofWindow optionsOfTwoMonths "Europe/London" patternOfTwoMonths (some 2024) window
    { resolver.interrupted secondQuery with state := ({ utc := 1 }, ()) }

/-- The first call passes over the gap and fails.  A second failure changes nothing, and with a
resolver that knows the zone the occurrence is emitted. -/
theorem retry_of_may :
    (build (midnight ⟨0⟩) optionsOfTwoMonths (resolver.interrupted secondQuery)).1 =
        .ok ofTwoMonths ∧
      ofTwoMonths.drops = [halfPastOne 19813] ∧
        let failed := ofTwoMonths.next
        failed.1 = some (.error (.fault (.resolution "Europe/London"
            (.reported (Fault.zoneUnknown "Europe/London").message)))) ∧
          failed.2.pending = some (halfPastOne 19874) ∧
            (failed.2.setResolver .nowhere).next = (failed.1, failed.2.setResolver .nowhere) ∧
              (failed.2.setResolver resolver).next.1 =
                some (.ok ⟨halfPastOne 19874, ⟨3600⟩⟩) := by
  have built : (build (midnight ⟨0⟩) optionsOfTwoMonths (resolver.interrupted secondQuery)).1 =
      .ok ofTwoMonths := by
    have compiled : optionsOfTwoMonths.compile = .ok (patternOfTwoMonths, some 2024) := by rfl
    simp only [build, compiled]
    rfl
  have failed : ofTwoMonths.next.1 = some (.error (.fault (.resolution "Europe/London"
      (.reported (Fault.zoneUnknown "Europe/London").message)))) := by decide +kernel
  have pending : ofTwoMonths.next.2.pending = some (halfPastOne 19874) := by decide +kernel
  obtain ⟨-, -, -, occurrence, -, parts, retried⟩ := retry_of_failed failed
  obtain rfl : halfPastOne 19874 = occurrence := by
    rw [parts] at pending
    exact (Option.some.inj pending).symm
  refine ⟨built, by decide +kernel, failed, pending, ?_, ?_⟩
  · rw [retried, failed]
    rfl
  · rw [retried]
    rfl

end SpringForward

end Schedule

end Timetable
