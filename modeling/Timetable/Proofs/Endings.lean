import Mathlib.Order.OrderIsoNat
import Timetable.Proofs.Failures
import Timetable.Proofs.Retries
import Timetable.Proofs.Years

/-!
# Every loop ends

A call on a schedule is three loops, one inside the other: attempts with occurrences, of which
those that the wall clock never shows are dropped; candidates, of which the filters reject some;
and readings, which the search examines day by day and leaves for later ones.  No filter, no
resolver and no pattern, whatever numbers it holds, keeps any of them going: each pass that goes on
makes a measure less, so that within a known number of passes a loop returns what the search, the
candidates or the schedule give (`Loop.within?_eq`).

A run of calls has no such measure, since a call that fails leaves its occurrence ahead.  But the
list ahead is finite and gets shorter with every other call.  When only finitely many lookups fail,
the run comes to its end, or else to an occurrence that leads out of the range of clocks: every
further call reports that no clock can show its instant, or is broken off since none can show what
the wall clock would show then (`Schedule.every_loop_ends`).
-/

namespace Timetable

open Calendar WallTime

set_option autoImplicit false

/-! ## Loops -/

/-- What one pass of a loop comes to. -/
inductive Pass (α β : Type) where
  /-- The loop goes on with a state. -/
  | again (state : α)
  /-- The loop returns a result. -/
  | done (result : β)

section Loops

variable {α β : Type} {body : α → Pass α β} {measure : α → Nat} {loop : α → β}

/-- What a loop returns within a number of passes, if it does. -/
def within? (body : α → Pass α β) : Nat → α → Option β
  | 0, _ => none
  | passes + 1, state =>
    match body state with
    | .again later => within? body passes later
    | .done result => some result

/-- `loop` gives the results of the loop with a body that makes a measure less. -/
structure Loop (body : α → Pass α β) (measure : α → Nat) (loop : α → β) : Prop where
  /-- A pass that goes on makes the measure less, and the same result is to come. -/
  again : ∀ {state later}, body state = .again later →
    measure later < measure state ∧ loop later = loop state
  /-- A pass that returns gives the result. -/
  done : ∀ {state result}, body state = .done result → loop state = result

/-- **A loop returns before it has made more passes than its measure.** -/
theorem Loop.within?_eq (runs : Loop body measure loop) {state : α} {passes : Nat}
    (enough : measure state < passes) : within? body passes state = some (loop state) := by
  induction passes generalizing state with
  | zero => omega
  | succ passes ih =>
    rw [within?]
    cases passed : body state with
    | again later =>
      obtain ⟨less, same⟩ := runs.again passed
      rw [← same]
      exact ih (by omega)
    | done result => rw [runs.done passed]

end Loops

/-! ## The search, day by day -/

namespace Pattern

variable {pattern : Pattern} {stop : Option WallTime} {time later : WallTime}

/-- A day that does not match is left together with the idle days behind it. -/
theorem examine_of_idle (month : pattern.monthMatches time.date.month = true)
    (idle : pattern.dayMatches time.date.day time.date.weekday = false) :
    pattern.examine time =
      .jump (midnight (time.date.later (pattern.idleAfter time.date + 1))) := by
  simp only [Date.month, Date.day] at month idle
  simp only [examine, month, idle, Bool.not_true, Bool.not_false, Bool.false_eq_true, if_false,
    if_true]
  rfl

/-- Nothing is found behind the stop. -/
theorem find?_of_past (past : stop.any (· < time) = true) : pattern.find? stop time = none := by
  rw [find?, if_pos past]

/-- What is not before a reading behind the stop is behind it too. -/
theorem past_of_le (past : stop.any (· < time) = true) (order : time ≤ later) :
    stop.any (· < later) = true := by
  cases stop with
  | none => cases past
  | some last => exact decide_eq_true ((of_decide_eq_true past).trans_le order)

/-- Nothing is found behind the last year searched. -/
theorem find?_of_beyond (beyond : yearLimit < time.year) : pattern.find? stop time = none := by
  have outside : searchStop ≤ time.date.number :=
    Int.not_lt.mp fun within => Int.not_lt.mpr ((lt_searchStop_iff _).mp within) beyond
  rw [find?, dif_pos outside]
  split_ifs
  · rfl
  · rfl

/-- An examination within the stop and the years searched decides what is found. -/
theorem find?_of_examine (here : stop.any (· < time) = false) (in_years : time.year ≤ yearLimit) :
    pattern.find? stop time =
      match pattern.examine time with
      | .found => some time
      | .stuck => none
      | .jump later => pattern.find? stop later := by
  have within : ¬ searchStop ≤ time.date.number := by
    have := (lt_searchStop_iff time.date).mpr in_years
    omega
  rw [find?.eq_1 pattern stop time, here, if_neg Bool.false_ne_true, dif_neg within]
  split <;> rename_i examined <;> rw [examined]

/-- The same is found when a day that does not match is left for the next day alone. -/
theorem find?_next_day (here : stop.any (· < time) = false) (in_years : time.year ≤ yearLimit)
    (month : pattern.monthMatches time.date.month = true)
    (idle : pattern.dayMatches time.date.day time.date.weekday = false) :
    pattern.find? stop (midnight (time.date.later 1)) = pattern.find? stop time := by
  rw [find?_of_examine here in_years, examine_of_idle month idle]
  cases days : pattern.idleAfter time.date with
  | zero => rfl
  | succ further =>
    obtain ⟨same_month, same_year, still_idle, fewer⟩ := idleAfter_later days
    have target : (time.date.later 1).later (further + 1) = time.date.later (further + 1 + 1) := by
      ext
      simp only [Date.later]
      omega
    show _ = pattern.find? stop (midnight (time.date.later (further + 1 + 1)))
    -- The next day may be behind the stop, which the idle days behind it are then as well.
    cases past : stop.any (· < midnight (time.date.later 1)) with
    | true =>
      have order : midnight (time.date.later 1) ≤ midnight (time.date.later (further + 1 + 1)) := by
        rw [(midnight_isWholeMinute _).le_iff]
        simp only [seconds, midnight, Date.later]
        omega
      rw [find?_of_past past, find?_of_past (past_of_le past order)]
    | false =>
      have next_in_years : (midnight (time.date.later 1)).year ≤ yearLimit := by
        show (time.date.later 1).year ≤ yearLimit
        rw [same_year]
        exact in_years
      have next_month : pattern.monthMatches (midnight (time.date.later 1)).date.month = true := by
        show pattern.monthMatches (time.date.later 1).month = true
        rw [same_month]
        exact month
      have jump := examine_of_idle next_month still_idle
      rw [show (midnight (time.date.later 1)).date = time.date.later 1 from rfl, fewer,
        target] at jump
      rw [find?_of_examine past next_in_years, jump]

/-- One pass of the search: a day that does not match is left for the next day. -/
def pass (pattern : Pattern) (stop : Option WallTime) (time : WallTime) :
    Pass WallTime (Option WallTime) :=
  if stop.any (· < time) then .done none
  else if yearLimit < time.year then .done none
  else if pattern.monthMatches time.date.month &&
      !pattern.dayMatches time.date.day time.date.weekday then
    .again (midnight (time.date.later 1))
  else
    match pattern.examine time with
    | .found => .done (some time)
    | .stuck => .done none
    | .jump later => .again later

/-- The seconds from a reading to the end of the years searched. -/
def secondsLeft (time : WallTime) : Nat := (searchStop * 86400 - time.seconds).toNat

/-- No reading behind the last year searched is examined. -/
theorem pass_of_beyond (beyond : yearLimit < time.year) : pattern.pass stop time = .done none := by
  rw [pass, if_pos beyond]
  split_ifs
  · rfl
  · rfl

/-- **A pass that goes on goes forwards, from a reading in the years searched**, and the same is
found from there. -/
theorem spec_of_pass_eq_again (passed : pattern.pass stop time = .again later) :
    time.seconds < later.seconds ∧ time.year ≤ yearLimit ∧
      pattern.find? stop later = pattern.find? stop time := by
  rw [pass] at passed
  split_ifs at passed with past beyond idle
  · cases passed
    have here : stop.any (· < time) = false := Bool.eq_false_iff.mpr past
    rw [Bool.and_eq_true, Bool.not_eq_true'] at idle
    refine ⟨lt_midnight ?_, Int.not_lt.mp beyond,
      find?_next_day here (Int.not_lt.mp beyond) idle.1 idle.2⟩
    simp only [Date.later]
    omega
  · have here : stop.any (· < time) = false := Bool.eq_false_iff.mpr past
    rw [find?_of_examine here (Int.not_lt.mp beyond)]
    split at passed
    · cases passed
    · cases passed
    · rename_i examined
      cases passed
      exact ⟨seconds_lt_of_examine examined, Int.not_lt.mp beyond, rfl⟩

/-- A pass that returns gives what is found. -/
theorem find?_of_pass_eq_done {result : Option WallTime}
    (passed : pattern.pass stop time = .done result) : pattern.find? stop time = result := by
  rw [pass] at passed
  split_ifs at passed with past beyond idle
  · cases passed
    exact find?_of_past past
  · cases passed
    exact find?_of_beyond beyond
  · rw [find?_of_examine (Bool.eq_false_iff.mpr past) (Int.not_lt.mp beyond)]
    split at passed
    · cases passed
      rfl
    · cases passed
      rfl
    · cases passed

/-- The search is the loop of its passes, day by day. -/
theorem loop_pass (pattern : Pattern) (stop : Option WallTime) :
    Loop (pattern.pass stop) secondsLeft (pattern.find? stop) where
  again passed := by
    rename_i time later
    obtain ⟨forwards, in_years, same⟩ := spec_of_pass_eq_again passed
    have within := (lt_searchStop_iff time.date).mpr in_years
    have := time.secondOfDay_lt
    refine ⟨?_, same⟩
    simp only [secondsLeft, seconds] at *
    omega
  done := find?_of_pass_eq_done

end Pattern

/-! ## Candidates and occurrences -/

namespace Search

/-- One pass over the candidates: one that is rejected is left for the next. -/
def pass (filters : Chain) (search : Search) : Pass Search (Option WallTime × Search) :=
  match search.next with
  | (none, rest) => .done (none, rest)
  | (some found, rest) =>
    match filters.decide found with
    | .accept => .done (some found, rest)
    | .reject => .again rest
    | .terminate => .done (none, rest)

/-- The next accepted candidate is that of the loop over candidates. -/
theorem loop_pass (filters : Chain) : Loop (pass filters) remaining (nextAccepted filters) where
  again passed := by
    rename_i search later
    rw [pass] at passed
    split at passed
    · cases passed
    · rename_i found rest drawn
      split at passed
      · cases passed
      · rename_i rejected
        cases passed
        refine ⟨remaining_lt_of_next drawn, ?_⟩
        rw [nextAccepted.eq_1 filters search, drawn]
        simp only [rejected]
      · cases passed
  done passed := by
    rename_i search result
    rw [pass] at passed
    rw [nextAccepted]
    split at passed
    · rename_i rest drawn
      cases passed
      rw [drawn]
    · rename_i found rest drawn
      rw [drawn]
      split at passed
      · rename_i accepted
        cases passed
        simp only [accepted]
      · cases passed
      · rename_i terminated
        cases passed
        simp only [terminated]

end Search

namespace Schedule

variable {σ : Type} {offset : Query → Offset} {schedule : Schedule σ}

/-- One pass over the occurrences: one that is dropped is left for the next. -/
def pass (schedule : Schedule σ) : Pass (Schedule σ) (Option Item × Schedule σ) :=
  match schedule.advance with
  | (.fixed zoned, rest) => .done (some (.ok zoned), rest)
  | (.failed failure, rest) => .done (some (.error failure), rest)
  | (.ended, rest) => .done (none, rest)
  | (.dropped _, rest) => .again rest

/-- The next item is that of the loop over occurrences. -/
theorem loop_pass : Loop (pass (σ := σ)) remaining next where
  again passed := by
    rename_i schedule later
    rw [pass] at passed
    split at passed
    · cases passed
    · cases passed
    · cases passed
    · rename_i occurrence rest advanced
      cases passed
      refine ⟨remaining_lt_of_dropped advanced, ?_⟩
      rw [next.eq_1 schedule, advanced]
  done passed := by
    rename_i schedule result
    rw [pass] at passed
    rw [next]
    split at passed
    · rename_i advanced
      cases passed
      rw [advanced]
    · rename_i advanced
      cases passed
      rw [advanced]
    · rename_i advanced
      cases passed
      rw [advanced]
    · cases passed

/-! ## Runs -/

theorem after_add (schedule : Schedule σ) (count more : Nat) :
    schedule.after (count + more) = (schedule.after count).after more := by
  rw [after, Nat.add_comm, Function.iterate_add_apply]
  rfl

/-- A lookup fails in the next call, for the first occurrence ahead that the call does not drop. -/
def LookupFails (schedule : Schedule σ) : Prop :=
  ∃ occurrence others fault later,
    schedule.ahead = schedule.drops ++ occurrence :: others ∧
      (schedule.resolver.afterFixing schedule.zone schedule.drops).LookupFails schedule.zone
        occurrence fault later

/-- In the next call an offset leads out of the range of clocks, for the first occurrence ahead that
the call does not drop. -/
def LeavesRange (schedule : Schedule σ) (occurrence : WallTime) (failure : Failure) : Prop :=
  ∃ others later, schedule.ahead = schedule.drops ++ occurrence :: others ∧
    (schedule.resolver.afterFixing schedule.zone schedule.drops).LeavesRange schedule.zone
      occurrence failure later

/-- Every call fails on one and the same occurrence, as an offset leads out of the range of
clocks. -/
def Stuck (schedule : Schedule σ) : Prop :=
  ∃ occurrence, ∀ count, ∃ failure, (schedule.after count).LeavesRange occurrence failure ∧
    schedule.nthItem count = some (.error failure) ∧
      (schedule.after (count + 1)).pending = some occurrence

/-- No call makes the list ahead longer. -/
theorem length_ahead_next_le (schedule : Schedule σ) :
    schedule.next.2.ahead.length ≤ schedule.ahead.length := by
  rw [← schedule.settling_append_ahead, List.length_append]
  exact Nat.le_add_left _ _

/-- A call fails on the first occurrence that it does not drop, because a lookup fails or because
an offset leads out of the range of clocks.  It reports a fault where a lookup fails. -/
theorem lookupFails_or_leavesRange {failure : Failure}
    (failed : schedule.next.1 = some (.error failure)) :
    ∃ occurrence others, schedule.ahead = schedule.drops ++ occurrence :: others ∧
      schedule.next.2.pending = some occurrence ∧
        (schedule.LookupFails ∧ failure ≠ .overrun ∨
          schedule.LeavesRange occurrence failure) := by
  obtain ⟨running, left, occurrence, refuses, parts⟩ := pending_of_failed failed
  have pending : schedule.next.2.pending = some occurrence := by rw [parts]
  obtain ⟨others, behind⟩ : ∃ others, schedule.next.2.ahead = occurrence :: others := by
    rw [ahead, running, pending]
    exact ⟨_, rfl⟩
  rw [behind] at left
  refine ⟨occurrence, others, left.symm, pending, ?_⟩
  rcases refuses with fails | leaves
  · exact .inl ⟨⟨occurrence, others, _, _, left.symm, fails⟩, by rintro ⟨⟩⟩
  · exact .inr ⟨others, _, left.symm, leaves⟩

/-- A call that takes nothing from the list ahead, although there is something and no lookup fails,
has met an occurrence that leads out of the range of clocks. -/
theorem leavesRange_of_length_eq (schedule : Schedule σ)
    (kept : schedule.next.2.ahead.length = schedule.ahead.length)
    (goes_on : schedule.next.1 ≠ none) (no_failure : ¬ schedule.LookupFails) :
    ∃ occurrence failure others, schedule.LeavesRange occurrence failure ∧
      schedule.next.1 = some (.error failure) ∧
        schedule.next.2.pending = some occurrence ∧ schedule.ahead = occurrence :: others ∧
          schedule.next.2.ahead = schedule.ahead := by
  have split := schedule.settling_append_ahead
  have nothing : schedule.settling = [] := by
    have lengths := congrArg List.length split
    rw [List.length_append] at lengths
    exact List.eq_nil_of_length_eq_zero (by omega)
  rw [nothing, List.nil_append] at split
  rw [settling, List.append_eq_nil_iff] at nothing
  obtain ⟨no_drops, none_emitted⟩ := nothing
  rcases item : schedule.next.1 with _ | failure | zoned
  · exact absurd item goes_on
  · obtain ⟨occurrence, others, ahead, pending, fails | leaves⟩ := lookupFails_or_leavesRange item
    · exact absurd fails.1 no_failure
    · rw [no_drops] at ahead
      exact ⟨occurrence, failure, others, leaves, rfl, pending, ahead, split⟩
  · rw [item] at none_emitted
    cases none_emitted

/-- A run that takes nothing more from the list ahead, without an end and without a failing lookup,
is stuck. -/
theorem stuck_of_length_eq
    (kept : ∀ count, (schedule.after count).ahead.length = schedule.ahead.length)
    (goes_on : ∀ count, (schedule.after count).next.1 ≠ none)
    (no_failure : ∀ count, ¬ (schedule.after count).LookupFails) : schedule.Stuck := by
  have calls (count : Nat) := leavesRange_of_length_eq (schedule.after count)
    (by rw [← after_succ, kept, kept]) (goes_on count) (no_failure count)
  obtain ⟨occurrence, -, others, -, -, -, ahead, -⟩ := calls 0
  -- The list ahead is the same at all times, and so is its first occurrence.
  have still (count : Nat) : (schedule.after count).ahead = schedule.ahead := by
    induction count with
    | zero => rfl
    | succ count ih =>
      obtain ⟨-, -, -, -, -, -, -, same⟩ := calls count
      rw [after_succ, same, ih]
  refine ⟨occurrence, fun count => ?_⟩
  obtain ⟨own, failure, own_others, leaves, item, pending, own_ahead, -⟩ := calls count
  obtain rfl : own = occurrence := by
    rw [still count] at own_ahead
    exact (List.cons.inj (own_ahead.symm.trans ahead)).1
  refine ⟨failure, leaves, item, ?_⟩
  rw [after_succ]
  exact pending

/-- A run in which only finitely many lookups fail comes to its end, or gets stuck. -/
theorem ends_or_stuck (few : {count | (schedule.after count).LookupFails}.Finite) :
    ∃ count, (schedule.after count).next.1 = none ∨ (schedule.after count).Stuck := by
  have shorter : Antitone fun count => (schedule.after count).ahead.length := by
    refine antitone_nat_of_succ_le fun count => ?_
    rw [after_succ]
    exact length_ahead_next_le _
  obtain ⟨kept, same⟩ := WellFoundedLT.antitone_chain_condition shorter
  obtain ⟨last, above⟩ := few.bddAbove
  -- From here on no lookup fails and the list ahead has a fixed length.
  let settled := kept + (last + 1)
  by_cases ends : ∃ count, (schedule.after (settled + count)).next.1 = none
  · obtain ⟨count, ended⟩ := ends
    exact ⟨settled + count, .inl ended⟩
  · refine ⟨settled, .inr (stuck_of_length_eq ?_ ?_ ?_)⟩
    · intro count
      rw [← after_add]
      exact (same _ (by omega)).symm.trans (same _ (by omega))
    · intro count
      rw [← after_add]
      exact not_exists.mp ends count
    · intro count fails
      rw [← after_add] at fails
      have := above fails
      omega

/-- **Every loop ends.** For every pattern, filter and resolver, a pass of the search that goes on
goes forwards and stays in the years searched, and each of the three loops ends within a known
number of passes; the last is broken off only where an offset leads out of the range of clocks.  A
run of calls in which only finitely many lookups fail comes to its end after finitely many calls,
unless it comes to an occurrence where an offset does so. -/
theorem every_loop_ends (schedule : Schedule σ) :
    (∀ (pattern : Pattern) (stop : Option WallTime) (time : WallTime),
        (∀ later, pattern.pass stop time = .again later → time < later) ∧
          (pattern.pass stop time ≠ .done none → time.year ≤ yearLimit) ∧
            ∀ passes, Pattern.secondsLeft time < passes →
              within? (pattern.pass stop) passes time = some (pattern.find? stop time)) ∧
      (∀ (filters : Chain) (search : Search) (passes : Nat), search.remaining < passes →
        within? (Search.pass filters) passes search = some (search.nextAccepted filters)) ∧
        (∀ passes, schedule.remaining < passes →
          within? pass passes schedule = some schedule.next) ∧
          (schedule.next.1 = some (.error .overrun) →
            ∃ occurrence, schedule.LeavesRange occurrence .overrun) ∧
            ({count | (schedule.after count).LookupFails}.Finite →
              ∃ count, (schedule.after count).next.1 = none ∨ (schedule.after count).Stuck) := by
  refine ⟨fun pattern stop time => ⟨?_, ?_, ?_⟩, ?_, ?_, ?_, ends_or_stuck⟩
  · intro later passed
    rw [WallTime.lt_iff]
    exact .inl (Pattern.spec_of_pass_eq_again passed).1
  · intro searched
    by_contra beyond
    exact searched (Pattern.pass_of_beyond (Int.not_le.mp beyond))
  · intro passes enough
    exact (Pattern.loop_pass pattern stop).within?_eq enough
  · intro filters search passes enough
    exact (Search.loop_pass filters).within?_eq enough
  · intro passes enough
    exact loop_pass.within?_eq enough
  · intro broken_off
    obtain ⟨occurrence, -, -, -, ⟨-, reported⟩ | leaves⟩ := lookupFails_or_leavesRange broken_off
    · exact absurd rfl reported
    · exact ⟨occurrence, leaves⟩

/-! ## Lookups that do not fail -/

/-- A steady resolver is steady after any attempts, and no lookup of it fails. -/
theorem not_lookupFails_of_steady (steady : schedule.resolver.Steady offset) :
    ¬ schedule.LookupFails := by
  have still_steady (occurrences : List WallTime) {resolver : Resolver σ}
      (steady : resolver.Steady offset) :
      (resolver.afterFixing schedule.zone occurrences).Steady offset := by
    induction occurrences generalizing resolver with
    | nil => exact steady
    | cons occurrence others ih =>
      exact ih (steady.of_rule (steady.unreliable.fixExisting schedule.zone occurrence).rule)
  rintro ⟨occurrence, others, fault, later, -, fails⟩
  have answers := still_steady schedule.drops steady
  rcases fails with asked | ⟨asked, -, looked⟩
  · exact nomatch (congrArg Prod.fst asked).symm.trans (answers _ _)
  · have placed_steady := answers.of_rule (congrArg (·.2.answer) asked).symm
    exact nomatch (congrArg Prod.fst looked).symm.trans (placed_steady _ _)

theorem steady_after (steady : schedule.resolver.Steady offset) (count : Nat) :
    (schedule.after count).resolver.Steady offset := by
  induction count with
  | zero => exact steady
  | succ count ih =>
    rw [after_succ]
    exact (next_of_steady ih).1

/-- Where a call has found nothing, no lookup fails any more. -/
theorem not_lookupFails_of_ended {count : Nat} (ended : (schedule.after count).next.1 = none)
    {more : Nat} (later : count < more) : ¬ (schedule.after more).LookupFails := by
  have finished : (schedule.after more).finished = true := by
    induction more, later using Nat.le_induction with
    | base => rw [after_succ, (next_eq_draw _).2.2, ended]
    | succ more _ ih =>
      have at_end : (schedule.after more).advance = (.ended, schedule.after more) := by
        rw [advance, if_pos ih]
      rw [after_succ, (next_eq_draw _).2.2, next, at_end]
  rintro ⟨occurrence, others, fault, behind, ahead, -⟩
  rw [Schedule.ahead, finished] at ahead
  exact List.append_ne_nil_of_right_ne_nil _ (List.cons_ne_nil _ _) ahead.symm

namespace SpringForward

/-- The run with two outages in it ends: two lookups fail, and one occurrence is dropped. -/
theorem failing_ends :
    {count | (failing.after count).LookupFails}.Finite ∧
      (failing.take 4).1.map Except.isOk = [true, false, false, true] ∧
        (∀ passes, failing.remaining < passes → within? pass passes failing = some failing.next) ∧
          ∃ count, (failing.after count).next.1 = none ∨ (failing.after count).Stuck := by
  have ended : (failing.after 4).next.1 = none := by decide +kernel
  have few : {count | (failing.after count).LookupFails}.Finite := by
    refine (Set.finite_Iic 4).subset fun count fails => ?_
    exact not_lt.mp fun later => not_lookupFails_of_ended ended later fails
  obtain ⟨-, -, returns, -, ends⟩ := every_loop_ends failing
  exact ⟨few, by decide +kernel, returns, ends few⟩

end SpringForward

namespace FirstDay

/-- Every minute, of which the window has one. -/
def optionsOfOneMinute : Options := .everyMinute "X" (some first) (some first)

def oneMinute : Schedule Unit :=
  ofWindow optionsOfOneMinute "X" .everyMinute none
    { window with stop := some first, ordered := by simp [window] } resolver

/-- The resolver never fails and the window has one minute, but no call finds nothing. -/
theorem one_minute_never_ends :
    (build (midnight ⟨0⟩) optionsOfOneMinute resolver).1 = .ok oneMinute ∧
      resolver.Steady clockOffset ∧ {count | (oneMinute.after count).LookupFails} = ∅ ∧
        ∀ count, (oneMinute.after count).next.1 ≠ none := by
  have built : (build (midnight ⟨0⟩) optionsOfOneMinute resolver).1 = .ok oneMinute := by
    have compiled : optionsOfOneMinute.compile = .ok (.everyMinute, none) :=
      Options.compile_everyMinute _ _ _
    simp only [build, compiled]
    rfl
  obtain ⟨others, ahead⟩ : ∃ others, oneMinute.ahead = first :: others :=
    Search.exists_accepted_eq_cons (by decide +kernel)
  have failed : Resolver.fixedBy clockOffset "X" first =
      .error (.fault (.resolution "X" (.unrepresentable first ⟨3600⟩))) := by rfl
  refine ⟨built, resolver_steady, ?_, fun count => ?_⟩
  · refine Set.eq_empty_of_forall_notMem fun count => ?_
    exact not_lookupFails_of_steady (steady_after resolver_steady count)
  · show oneMinute.nthItem count ≠ none
    rw [nthItem_of_stuck resolver_steady ahead failed]
    exact Option.some_ne_none _

end FirstDay

end Schedule

end Timetable
