import Mathlib.Data.Set.Finite.Lattice
import Timetable.Proofs.Reliability

/-!
# Failures leave no trace

Two schedules are built alike, one with a steady resolver and one with a resolver
of the same offsets that fails now and then.  A failure costs a call and nothing
else: whatever was to be drawn before is drawn by a later call.  So at all times
the two schedules agree on what they draw next (`Alongside`), once the first has
been called as often as the second has emitted an occurrence.

What the second emits is then a beginning of what the first emits, it ends only
when the first has, and when there is an end to the failures it emits all of it
(`Schedule.failures_transparent`).
-/

namespace Timetable

open WallTime

set_option autoImplicit false

namespace Resolver

variable {σ : Type} {offset : Query → Offset} {inner : Resolver σ}

/-! ## Interrupted resolvers -/

/-- A steady resolver that is interrupted in any pattern is unreliable, with no bound to its
faults. -/
theorem interrupted_unreliable (steady : inner.Steady offset)
    (interruption : Clock → Nat → Option Fault) :
    (interrupted interruption inner).Unreliable offset fun _ => ⊤ := by
  intro state query
  refine ⟨rfl, ?_⟩
  simp only [ask, interrupted]
  cases interruption query.clock (state.1.count query.clock) with
  | some fault => exact .inr ⟨⟨fault, rfl⟩, le_top⟩
  | none => exact .inl ⟨steady _ _, le_top⟩

/-- The queries for either clock that a tally has left below a bound. -/
def Tally.below (tally : Tally) (bound : Nat) : Nat := (bound - tally.wall) + (bound - tally.utc)

theorem Tally.below_add_le (tally : Tally) (bound : Nat) (clock : Clock) :
    (tally.add clock).below bound ≤ tally.below bound := by
  cases clock <;> simp only [below, add] <;> omega

theorem Tally.below_add_lt {tally : Tally} {bound : Nat} {clock : Clock}
    (counted : tally.count clock < bound) :
    (tally.add clock).below bound + 1 ≤ tally.below bound := by
  cases clock <;> simp only [below, add, count] at * <;> omega

/-- When only counts below a bound are interrupted, there are no more faults to come than counts
left below it. -/
theorem interrupted_unreliable_of_bound (steady : inner.Steady offset)
    {interruption : Clock → Nat → Option Fault} {bound : Nat}
    (bounded : ∀ clock count, interruption clock count ≠ none → count < bound) :
    (interrupted interruption inner).Unreliable offset fun state => (state.1.below bound : ℕ∞) := by
  intro state query
  refine ⟨rfl, ?_⟩
  have met := bounded query.clock (state.1.count query.clock)
  simp only [ask, interrupted]
  cases broken : interruption query.clock (state.1.count query.clock) with
  | some fault =>
    have fewer := Tally.below_add_lt (met (by rw [broken]; nofun))
    exact .inr ⟨⟨fault, rfl⟩, by exact_mod_cast fewer⟩
  | none =>
    exact .inl ⟨steady _ _, by exact_mod_cast state.1.below_add_le bound query.clock⟩

end Resolver

/-! ## Draws by offsets -/

section Draws

open Resolver

variable {offset : Query → Offset} {zone : String} {occurrences left : List WallTime}

/-- A draw that emits nothing is made again by the next one. -/
theorem drawBy_of_not_emitted {item : Option Schedule.Item}
    (drawn : drawBy offset zone occurrences = (item, left))
    (nothing : ∀ zoned, item ≠ some (.ok zoned)) : drawBy offset zone left = (item, left) := by
  induction occurrences with
  | nil =>
    cases drawn
    rfl
  | cons occurrence later ih =>
    rw [drawBy] at drawn
    split at drawn
    · rename_i zoned answer
      cases drawn
      exact absurd rfl (nothing zoned)
    · exact ih drawn
    · rename_i failure answer
      cases drawn
      rw [drawBy, answer]

/-- An occurrence that is emitted is no longer ahead. -/
theorem length_of_drawBy {zoned : Zoned}
    (drawn : drawBy offset zone occurrences = (some (.ok zoned), left)) :
    left.length < occurrences.length := by
  induction occurrences with
  | nil => cases drawn
  | cons occurrence later ih =>
    rw [drawBy] at drawn
    split at drawn
    · cases drawn
      exact Nat.lt_succ_self _
    · exact Nat.lt_succ_of_lt (ih drawn)
    · cases drawn

end Draws

namespace Schedule

variable {σ τ : Type} {offset : Query → Offset} {faults : τ → ℕ∞}

/-! ## Taking items -/

theorem take_succ_of_eq_some {schedule : Schedule σ} {item : Item}
    (drawn : schedule.next.1 = some item) (count : Nat) :
    schedule.take (count + 1) =
      (item :: (schedule.next.2.take count).1, (schedule.next.2.take count).2) := by
  rw [take, show schedule.next = (some item, schedule.next.2) from Prod.ext drawn rfl]

theorem take_succ_of_eq_none {schedule : Schedule σ} (ended : schedule.next.1 = none)
    (count : Nat) : schedule.take (count + 1) = ([], schedule.next.2) := by
  rw [take, show schedule.next = (none, schedule.next.2) from Prod.ext ended rfl]

/-- A run that has come to the end of its items has them all. -/
theorem take_isPrefix_of_ended {schedule : Schedule σ} {count : Nat}
    (ended : (schedule.take count).2.next.1 = none) (more : Nat) :
    (schedule.take more).1 <+: (schedule.take count).1 := by
  induction more generalizing schedule count with
  | zero => exact List.nil_prefix
  | succ more ih =>
    cases drawn : schedule.next.1 with
    | none =>
      rw [take_succ_of_eq_none drawn]
      exact List.nil_prefix
    | some item =>
      cases count with
      | zero =>
        rw [take, drawn] at ended
        cases ended
      | succ count =>
        rw [take_succ_of_eq_some drawn] at *
        rw [take_succ_of_eq_some drawn]
        exact (List.prefix_cons_inj item).mpr (ih ended)

/-! ## Two schedules side by side -/

/-- A schedule with a steady resolver and one with an unreliable resolver of the same offsets have
the same draw to make next. -/
structure Alongside (offset : Query → Offset) (faults : τ → ℕ∞) (steadily : Schedule σ)
    (failing : Schedule τ) : Prop where
  steady : steadily.resolver.Steady offset
  unreliable : failing.resolver.Unreliable offset faults
  zone : steadily.zone = failing.zone
  draw : Resolver.drawBy offset failing.zone steadily.ahead =
    Resolver.drawBy offset failing.zone failing.ahead

/-- **Side by side, a call that fails changes nothing, and any other call gives the same item on
both sides.** -/
theorem Alongside.next {steadily : Schedule σ} {failing : Schedule τ}
    (alongside : Alongside offset faults steadily failing) :
    (∃ failure, failing.next.1 = some (.error failure)) ∧
        Alongside offset faults steadily failing.next.2 ∨
      (∀ failure, failing.next.1 ≠ some (.error failure)) ∧ steadily.next.1 = failing.next.1 ∧
        Alongside offset faults steadily.next.2 failing.next.2 := by
  obtain ⟨steady, unreliable, zone, draw⟩ := alongside
  obtain ⟨later_unreliable, later_zone, -, outcome⟩ := next_of_unreliable unreliable
  obtain ⟨later_steady, steady_zone, own⟩ := next_of_steady steady
  rw [zone, draw] at own
  rcases outcome with ⟨drawn, -⟩ | ⟨failed, undone, -⟩
  · obtain ⟨same_item, same_left⟩ := Prod.mk.inj (own.symm.trans drawn)
    -- A failure can also come of the offsets, when a reading leaves the range of clocks.  It is
    -- then met on either side for good, and the steady schedule is not called for it.
    by_cases failed : ∃ failure, failing.next.1 = some (.error failure)
    · obtain ⟨failure, failed⟩ := failed
      rw [failed] at drawn
      refine .inl ⟨⟨failure, failed⟩, steady, later_unreliable, zone.trans later_zone.symm, ?_⟩
      rw [later_zone, draw, drawn, drawBy_of_not_emitted drawn nofun]
    · refine .inr ⟨fun failure here => failed ⟨failure, here⟩, same_item, later_steady,
        later_unreliable, ?_, by rw [same_left]⟩
      rw [steady_zone, later_zone, zone]
  · refine .inl ⟨failed, steady, later_unreliable, zone.trans later_zone.symm, ?_⟩
    rw [later_zone, draw, undone]

/-- The items of a run that are no failures. -/
def emitted (items : List Item) : List Item := items.filter Except.isOk

/-- After any number of calls on the one that fails, the other has been called as often as the first
has emitted an occurrence, and they are side by side again. -/
theorem Alongside.take {steadily : Schedule σ} {failing : Schedule τ}
    (alongside : Alongside offset faults steadily failing) (count : Nat) :
    ∃ fewer ≤ count, (steadily.take fewer).1 = emitted (failing.take count).1 ∧
      Alongside offset faults (steadily.take fewer).2 (failing.take count).2 := by
  induction count generalizing steadily failing with
  | zero => exact ⟨0, le_refl 0, rfl, alongside⟩
  | succ count ih =>
    rcases alongside.next with ⟨⟨failure, failed⟩, still⟩ | ⟨no_failure, same, behind⟩
    · obtain ⟨fewer, bound, items, later⟩ := ih still
      rw [take_succ_of_eq_some failed]
      exact ⟨fewer, Nat.le_succ_of_le bound, items, later⟩
    · cases drawn : failing.next.1 with
      | none =>
        rw [take_succ_of_eq_none drawn]
        refine ⟨1, Nat.succ_le_succ (Nat.zero_le count), ?_⟩
        rw [take_succ_of_eq_none (same.trans drawn)]
        exact ⟨rfl, behind⟩
      | some item =>
        obtain ⟨fewer, bound, items, later⟩ := ih behind
        rw [take_succ_of_eq_some drawn]
        refine ⟨fewer + 1, Nat.succ_le_succ bound, ?_⟩
        rw [take_succ_of_eq_some (same.trans drawn)]
        refine ⟨?_, later⟩
        rcases item with failure | zoned
        · exact absurd drawn (no_failure failure)
        · rw [items]
          rfl

/-! ## When there is nothing left to emit -/

/-- By the offsets there is nothing left to emit: the list ahead has no occurrence that the wall
clock shows, or one before it that cannot be fixed. -/
def Spent (offset : Query → Offset) (schedule : Schedule σ) : Prop :=
  ∀ zoned, (Resolver.drawBy offset schedule.zone schedule.ahead).1 ≠ some (.ok zoned)

theorem Alongside.spent {steadily : Schedule σ} {failing : Schedule τ}
    (alongside : Alongside offset faults steadily failing) (spent : Spent offset failing) :
    Spent offset steadily := by
  rw [Spent, alongside.zone, alongside.draw]
  exact spent

/-- Where nothing is left to emit, a call emits nothing and leaves nothing to emit. -/
theorem Spent.next {schedule : Schedule τ} (unreliable : schedule.resolver.Unreliable offset faults)
    (spent : Spent offset schedule) :
    (∀ zoned, schedule.next.1 ≠ some (.ok zoned)) ∧ Spent offset schedule.next.2 := by
  obtain ⟨-, zone, -, ⟨drawn, -⟩ | ⟨⟨failure, failed⟩, undone, -⟩⟩ := next_of_unreliable unreliable
  · have nothing : ∀ zoned, schedule.next.1 ≠ some (.ok zoned) := by
      rw [Spent, drawn] at spent
      exact spent
    refine ⟨nothing, ?_⟩
    rw [Spent, zone, drawBy_of_not_emitted drawn nothing]
    exact nothing
  · refine ⟨by rw [failed]; nofun, ?_⟩
    rw [Spent, zone, undone]
    exact spent

theorem emitted_take_of_spent {schedule : Schedule τ}
    (unreliable : schedule.resolver.Unreliable offset faults) {count more : Nat}
    (later : count ≤ more) (spent : Spent offset (schedule.take count).2) :
    emitted (schedule.take more).1 = emitted (schedule.take count).1 := by
  induction more generalizing schedule count with
  | zero => rw [Nat.le_zero.mp later]
  | succ more ih =>
    have later_unreliable := (next_of_unreliable unreliable).1
    cases drawn : schedule.next.1 with
    | none =>
      cases count with
      | zero =>
        rw [take_succ_of_eq_none drawn]
        rfl
      | succ count => rw [take_succ_of_eq_none drawn, take_succ_of_eq_none drawn]
    | some item =>
      rw [take_succ_of_eq_some drawn]
      cases count with
      | zero =>
        obtain ⟨nothing, behind⟩ := spent.next unreliable
        have rest := ih later_unreliable (Nat.zero_le more) behind
        rcases item with failure | zoned
        · exact rest
        · exact absurd drawn (nothing zoned)
      | succ count =>
        rw [take_succ_of_eq_some drawn] at spent ⊢
        have rest := ih later_unreliable (Nat.le_of_succ_le_succ later) spent
        rw [emitted, emitted, List.filter_cons, List.filter_cons, ← emitted, ← emitted, rest]

/-- When the faults to come are bounded, a time comes when nothing is left to emit: each call before
either emits an occurrence, and the list ahead gets shorter, or meets a fault. -/
theorem exists_spent_take {schedule : Schedule τ}
    (unreliable : schedule.resolver.Unreliable offset faults) {bound : Nat}
    (bounded : faults schedule.resolver.state ≤ bound) :
    ∃ count, Spent offset (schedule.take count).2 := by
  -- A call that emits shortens the list ahead, and a call that fails uses up a fault.
  induction size : bound + schedule.ahead.length using Nat.strong_induction_on
    generalizing schedule bound with
  | _ size ih =>
    by_cases spent : Spent offset schedule
    · exact ⟨0, spent⟩
    · obtain ⟨zoned, emits⟩ := not_forall_not.mp spent
      obtain ⟨later, -, suffix, ⟨drawn, fewer⟩ | ⟨⟨failure, failed⟩, -, fewer⟩⟩ :=
        next_of_unreliable unreliable
      · have item : schedule.next.1 = some (.ok zoned) :=
          (congrArg Prod.fst drawn).symm.trans emits
        rw [item] at drawn
        have shorter := length_of_drawBy drawn
        obtain ⟨count, reached⟩ := ih _ (by omega) later (fewer.trans bounded) rfl
        refine ⟨count + 1, ?_⟩
        rw [take_succ_of_eq_some item]
        exact reached
      · obtain ⟨fewer_bound, rfl, below⟩ : ∃ fewer_bound, bound = fewer_bound + 1 ∧
            faults schedule.next.2.resolver.state ≤ fewer_bound := by
          have under := ENat.add_one_le_natCast_iff.mp (fewer.trans bounded)
          cases bound with
          | zero => simp at under
          | succ bound => exact ⟨bound, rfl, ENat.lt_natCast_add_one_iff.mp under⟩
        have no_longer := suffix.length_le
        obtain ⟨count, reached⟩ := ih _ (by omega) later below rfl
        refine ⟨count + 1, ?_⟩
        rw [take_succ_of_eq_some failed]
        exact reached

/-! ## The whole run -/

/-- Schedules built from the same options are side by side. -/
theorem alongside_of_build {now : WallTime} {options : Options} {inner : Resolver σ}
    {outer : Resolver τ} (steady : inner.Steady offset)
    (unreliable : outer.Unreliable offset faults)
    {steadily : Schedule σ} {failing : Schedule τ}
    (built : (build now options inner).1 = .ok steadily)
    (built_failing : (build now options outer).1 = .ok failing) :
    Alongside offset faults steadily failing := by
  obtain ⟨pattern, year, window, compiled, made, parts, rule⟩ :=
    parts_of_build steady.unreliable built
  obtain ⟨_, _, _, compiled_again, made_again, failing_parts, failing_rule⟩ :=
    parts_of_build unreliable built_failing
  cases compiled.symm.trans compiled_again
  cases made.symm.trans made_again
  refine ⟨steady.of_rule rule, unreliable.of_rule failing_rule, ?_, ?_⟩
  · rw [parts, failing_parts]
    rfl
  · rw [parts, failing_parts]
    rfl

/-- **Failures leave no trace.**  Built from the same options, a schedule whose resolver fails at
any of its counted lookups emits a beginning of what it emits with the steady resolver alone; it
ends only when all of that was emitted; and when finitely many lookups fail, it emits all of it. -/
theorem failures_transparent {now : WallTime} {options : Options} {inner : Resolver σ}
    (steady : inner.Steady offset) (interruption : Clock → Nat → Option Fault)
    {steadily : Schedule σ} {failing : Schedule (Resolver.Tally × σ)}
    (built : (build now options inner).1 = .ok steadily)
    (built_failing : (build now options (inner.interrupted interruption)).1 = .ok failing) :
    (∀ count, ∃ fewer ≤ count, (steadily.take fewer).1 = emitted (failing.take count).1) ∧
      (∀ count, (failing.take count).2.next.1 = none →
        ∀ more, (steadily.take more).1 <+: emitted (failing.take count).1) ∧
        ({call : Clock × Nat | interruption call.1 call.2 ≠ none}.Finite →
          ∃ enough, ∀ more ≥ enough,
            emitted (failing.take more).1 = emitted (steadily.take more).1) := by
  have alongside := alongside_of_build steady
    (Resolver.interrupted_unreliable steady interruption) built built_failing
  refine ⟨?_, ?_, ?_⟩
  · intro count
    obtain ⟨fewer, bound, items, -⟩ := alongside.take count
    exact ⟨fewer, bound, items⟩
  · intro count ended more
    obtain ⟨fewer, -, items, behind⟩ := alongside.take count
    rw [← items]
    apply take_isPrefix_of_ended
    rcases behind.next with ⟨⟨failure, failed⟩, -⟩ | ⟨-, same, -⟩
    · rw [failed] at ended
      cases ended
    · exact same.trans ended
  · intro finite
    obtain ⟨last, above⟩ := (finite.image Prod.snd).bddAbove
    have bounded : ∀ clock count, interruption clock count ≠ none → count < last + 1 :=
      fun clock count broken => Nat.lt_succ_of_le (above ⟨(clock, count), broken, rfl⟩)
    have few_faults := alongside_of_build steady
      (Resolver.interrupted_unreliable_of_bound steady bounded) built built_failing
    obtain ⟨enough, spent⟩ := exists_spent_take few_faults.unreliable (le_refl _)
    obtain ⟨fewer, bound, items, behind⟩ := few_faults.take enough
    refine ⟨enough, fun more later => ?_⟩
    rw [emitted_take_of_spent few_faults.unreliable later spent,
      emitted_take_of_spent few_faults.steady.unreliable (bound.trans later) (behind.spent spent),
      items, emitted, emitted, List.filter_filter]
    simp only [Bool.and_self]

namespace SpringForward

/-- The second query for the wall clock fails, and the third for universal time. -/
def outage : Clock → Nat → Option Fault
  | .wall, 1 => some (.zoneUnknown "Europe/London")
  | .utc, 2 => some (.zoneUnknown "Europe/London")
  | _, _ => none

theorem outage_finite : {call : Clock × Nat | outage call.1 call.2 ≠ none}.Finite := by
  refine (Set.toFinite {(Clock.wall, 1), (Clock.utc, 2)}).subset ?_
  rintro ⟨clock, count⟩ broken
  change outage clock count ≠ none at broken
  unfold outage at broken
  split at broken
  · exact .inl rfl
  · exact .inr rfl
  · exact absurd rfl broken

/-- The schedule that fails twice to fix the 30th, its start having been placed already. -/
def failing : Schedule (Resolver.Tally × Unit) :=
  ofWindow options "Europe/London" pattern (some 2024) window
    { resolver.interrupted outage with state := ({ utc := 1 }, ()) }

/-- Between the 29th and the 30th there are two faults, the gap of the 31st is passed over, and what
was emitted at the end is all that is ever emitted without the faults. -/
theorem take_isPrefix_pair :
    (build (midnight ⟨0⟩) options (resolver.interrupted outage)).1 = .ok failing ∧
      (failing.take 4).1.map Except.isOk = [true, false, false, true] ∧
        (∀ more, (schedule.take more).1 <+:
          [.ok ⟨halfPastOne 19811, ⟨0⟩⟩, .ok ⟨halfPastOne 19812, ⟨0⟩⟩]) ∧
          ∃ enough, ∀ more ≥ enough,
            emitted (failing.take more).1 = emitted (schedule.take more).1 := by
  have steady : resolver.Steady clockOffset := fun _ _ => rfl
  have built : (build (midnight ⟨0⟩) options (resolver.interrupted outage)).1 = .ok failing := by
    simp only [build, options_compile]
    rfl
  have ended : (failing.take 4).2.next.1 = none := by decide +kernel
  have items : emitted (failing.take 4).1 =
      [.ok ⟨halfPastOne 19811, ⟨0⟩⟩, .ok ⟨halfPastOne 19812, ⟨0⟩⟩] := by decide +kernel
  obtain ⟨-, complete, finite⟩ := failures_transparent steady outage build_eq_schedule built
  refine ⟨built, by decide +kernel, ?_, finite outage_finite⟩
  rw [← items]
  exact complete 4 ended

end SpringForward

end Schedule

end Timetable
