import Timetable.Proofs.Ahead

/-!
# Nothing is lost

Whoever holds a schedule may draw from it, drop the pending occurrence and install
other resolvers, in any order, and the resolvers may fail as they like.  An
occurrence is settled when it is emitted, dropped because the wall clock never
shows it, or skipped by the holder.

The occurrences settled so far, with those ahead behind them, are at all times the
list that was ahead of the schedule when it was new (`History.balance`).  So none is
settled twice, left out or moved, and a schedule ends only when all are settled
(`settled_isPrefix`).
-/

namespace Timetable

open Calendar WallTime

set_option autoImplicit false

namespace Schedule

variable {σ τ υ : Type}

/-! ## What a call settles -/

/-- The occurrences that the next call drops on its way. -/
def drops (schedule : Schedule σ) : List WallTime :=
  match _ : schedule.advance with
  | (.dropped occurrence, rest) => occurrence :: drops rest
  | (_, _) => []
termination_by schedule.remaining
decreasing_by exact remaining_lt_of_dropped ‹schedule.advance = (.dropped occurrence, rest)›

section Call

variable {schedule rest : Schedule σ}

/-- A call that fixes an occurrence at once emits it and drops none. -/
theorem call_of_fixed {zoned : Zoned} (advanced : schedule.advance = (.fixed zoned, rest)) :
    schedule.next = (some (.ok zoned), rest) ∧ schedule.drops = [] := by
  rw [next, drops, advanced]
  exact ⟨rfl, rfl⟩

/-- A call that fails at once gives the failure and drops none. -/
theorem call_of_failed {failure : Failure}
    (advanced : schedule.advance = (.failed failure, rest)) :
    schedule.next = (some (.error failure), rest) ∧ schedule.drops = [] := by
  rw [next, drops, advanced]
  exact ⟨rfl, rfl⟩

/-- A call that comes to the end at once draws nothing and drops none. -/
theorem call_of_ended (advanced : schedule.advance = (.ended, rest)) :
    schedule.next = (none, rest) ∧ schedule.drops = [] := by
  rw [next, drops, advanced]
  exact ⟨rfl, rfl⟩

/-- A call that drops an occurrence goes on like a call without it. -/
theorem call_of_dropped {occurrence : WallTime}
    (advanced : schedule.advance = (.dropped occurrence, rest)) :
    schedule.next = rest.next ∧ schedule.drops = occurrence :: rest.drops := by
  rw [next, drops, advanced]
  exact ⟨rfl, rfl⟩

end Call

/-- The occurrences that the next call settles: those it drops, and the one it emits. -/
def settling (schedule : Schedule σ) : List WallTime :=
  schedule.drops ++
    match schedule.next.1 with
    | some (.ok zoned) => [zoned.wall]
    | some (.error _) => []
    | none => []

/-- A call settles the front of the list ahead and leaves the rest ahead. -/
theorem settling_append_ahead (schedule : Schedule σ) :
    schedule.settling ++ schedule.next.2.ahead = schedule.ahead := by
  fun_induction next schedule with
  | case1 schedule zoned rest advanced =>
    have spec := schedule.advance_spec
    obtain ⟨drawn, no_drops⟩ := call_of_fixed advanced
    rw [advanced] at spec
    rw [settling, no_drops, drawn, spec.1]
    rfl
  | case2 schedule failure rest advanced =>
    have spec := schedule.advance_spec
    obtain ⟨drawn, no_drops⟩ := call_of_failed advanced
    rw [advanced] at spec
    obtain ⟨occurrence, later, -, -, still, -⟩ := spec
    rw [settling, no_drops, drawn, still]
    rfl
  | case3 schedule rest advanced =>
    have spec := schedule.advance_spec
    obtain ⟨drawn, no_drops⟩ := call_of_ended advanced
    rw [advanced] at spec
    rw [settling, no_drops, drawn, spec.1, spec.2]
    rfl
  | case4 schedule occurrence rest advanced ih =>
    have spec := schedule.advance_spec
    obtain ⟨drawn, dropped⟩ := call_of_dropped advanced
    rw [advanced] at spec
    rw [settling, dropped, drawn, spec.1, ← ih]
    rfl

/-! ## Histories -/

/-- A history leads from `first` to a schedule by calls in any order, and `settled` are the
occurrences settled meanwhile, in the order in which that happened. -/
inductive History (first : Schedule σ) : {τ : Type} → List WallTime → Schedule τ → Prop where
  /-- Nothing has happened. -/
  | start : History first [] first
  /-- An item was drawn. -/
  | next {τ : Type} {settled : List WallTime} {schedule : Schedule τ} :
      History first settled schedule →
        History first (settled ++ schedule.settling) schedule.next.2
  /-- The pending occurrence, if there was one, was skipped. -/
  | skip {τ : Type} {settled : List WallTime} {schedule : Schedule τ} :
      History first settled schedule →
        History first (settled ++ schedule.skipPending.1.toList) schedule.skipPending.2
  /-- Another resolver was installed. -/
  | install {τ υ : Type} {settled : List WallTime} {schedule : Schedule τ} (resolver : Resolver υ) :
      History first settled schedule → History first settled (schedule.setResolver resolver)

/-- A schedule that is finished has nothing pending. -/
def Idle (schedule : Schedule σ) : Prop := schedule.finished = true → schedule.pending = none

theorem Idle.of_running {schedule : Schedule σ} (running : schedule.finished = false) :
    schedule.Idle := by
  intro finished
  rw [running] at finished
  cases finished

/-- The pending occurrence is the first of the list ahead, and skipping it leaves the others. -/
theorem pending_append_ahead {schedule : Schedule σ} (idle : schedule.Idle) :
    schedule.pending.toList ++ schedule.skipPending.2.ahead = schedule.ahead := by
  cases finished : schedule.finished with
  | true =>
    rw [idle finished, skipPending, ahead, ahead, finished]
    rfl
  | false =>
    rw [skipPending, ahead, ahead, finished]
    rfl

/-- Nothing is pending where nothing is ahead. -/
theorem pending_of_ahead_eq_nil {schedule : Schedule σ} (idle : schedule.Idle)
    (nothing : schedule.ahead = []) : schedule.pending = none := by
  have split := pending_append_ahead idle
  rw [nothing, List.append_eq_nil_iff, Option.toList_eq_nil_iff] at split
  exact split.1

theorem Idle.next {schedule : Schedule σ} (idle : schedule.Idle) : schedule.next.2.Idle := by
  fun_induction Schedule.next schedule with
  | case1 schedule zoned rest advanced =>
    have spec := schedule.advance_spec
    rw [advanced] at spec
    exact .of_running spec.2.2.2
  | case2 schedule failure rest advanced =>
    have spec := schedule.advance_spec
    rw [advanced] at spec
    obtain ⟨occurrence, later, -, -, -, -, running⟩ := spec
    exact .of_running running
  | case3 schedule rest advanced =>
    have spec := schedule.advance_spec
    rw [advanced] at spec
    obtain ⟨nothing, reached⟩ := spec
    intro _
    rw [reached]
    show schedule.pending = none
    exact pending_of_ahead_eq_nil idle nothing
  | case4 schedule occurrence rest advanced ih =>
    have spec := schedule.advance_spec
    rw [advanced] at spec
    exact ih (.of_running spec.2.2.2)

/-- **The occurrences settled so far and those ahead are together what was ahead at first**, and a
schedule that is finished has nothing pending. -/
theorem History.balance {first : Schedule σ} (idle : first.Idle) {settled : List WallTime}
    {schedule : Schedule τ} (history : History first settled schedule) :
    settled ++ schedule.ahead = first.ahead ∧ schedule.Idle := by
  -- Each call moves occurrences from the front of the list ahead to the end of those settled.
  induction history with
  | start => exact ⟨rfl, idle⟩
  | @next _ settled schedule _ ih =>
    refine ⟨?_, ih.2.next⟩
    rw [List.append_assoc, settling_append_ahead]
    exact ih.1
  | @skip _ settled schedule _ ih =>
    refine ⟨?_, fun _ => rfl⟩
    rw [List.append_assoc, ← ih.1, ← pending_append_ahead ih.2]
    rfl
  | install resolver _ ih => exact ih

/-! ## The account of a schedule -/

/-- **No occurrence is lost, repeated or moved, whatever is called and however the resolvers fail.**
What was settled, with the pending occurrence behind it, is at all times a beginning of the
ascending list that the filters choose in the window; and when a call finds nothing, that list is
settled to its end and nothing is pending. -/
theorem settled_isPrefix {now : WallTime} {options : Options} {resolver : Resolver σ}
    {first : Schedule σ} {pattern : Pattern} {year : Option Nat}
    (compiled : options.compile = .ok (pattern, year))
    (built : (build now options resolver).1 = .ok first)
    {settled : List WallTime} {schedule : Schedule τ} (history : History first settled schedule) :
    let accepted := chosen (options.filters ++ [Filter.ofYear year])
      (pattern.candidates year first.window.start first.window.stop)
    accepted.Pairwise (· < ·) ∧ settled ++ schedule.pending.toList <+: accepted ∧
      (settled ++ schedule.pending.toList).Nodup ∧
        (schedule.next.1 = none →
          settled ++ schedule.settling = accepted ∧ schedule.next.2.pending = none) := by
  intro accepted
  have listed : first.ahead = accepted := ahead_of_build compiled built
  have idle : first.Idle := by
    obtain ⟨_, _, _, _, _, _, -, -, -, -, rfl⟩ := eq_ofWindow_of_build compiled built
    exact .of_running rfl
  have ascending : accepted.Pairwise (· < ·) :=
    (pattern.candidates_ascending year _ _).sublist (chosen_sublist _ _)
  obtain ⟨balance, schedule_idle⟩ := history.balance idle
  have initial : settled ++ schedule.pending.toList <+: accepted := by
    refine ⟨schedule.skipPending.2.ahead, ?_⟩
    rw [List.append_assoc, pending_append_ahead schedule_idle, balance, listed]
  refine ⟨ascending, initial, ?_, ?_⟩
  · exact (ascending.imp ne_of_lt).sublist initial.sublist
  · intro ended
    have nothing : schedule.next.2.ahead = [] := by
      have finished := schedule.next_eq_draw.2.2.mpr ended
      rw [ahead, finished]
      rfl
    refine ⟨?_, pending_of_ahead_eq_nil schedule_idle.next nothing⟩
    have split := schedule.settling_append_ahead
    rw [nothing, List.append_nil] at split
    rw [split, balance, listed]

namespace SpringForward

/-- The schedule that has emitted the 29th and failed to fix the 30th. -/
def stranded : Schedule Unit := (schedule.next.2.setResolver .nowhere).next.2

/-- The schedule that has skipped the 30th and can fix occurrences again. -/
def resumed : Schedule Unit := stranded.skipPending.2.setResolver resolver

/-- The 29th is emitted and the 30th skipped; with the 31st, which the next call drops, all that the
filters choose is settled. -/
theorem chosen_eq_settled :
    History schedule [halfPastOne 19811, halfPastOne 19812] resumed ∧ resumed.next.1 = none ∧
      chosen (options.filters ++ [Filter.ofYear (some 2024)])
          (pattern.candidates (some 2024) window.start window.stop) =
        [halfPastOne 19811, halfPastOne 19812, halfPastOne 19813] := by
  have history : History schedule [halfPastOne 19811, halfPastOne 19812] resumed := by
    have settled : [] ++ schedule.settling ++ (schedule.next.2.setResolver .nowhere).settling ++
        stranded.skipPending.1.toList = [halfPastOne 19811, halfPastOne 19812] := by decide +kernel
    rw [← settled]
    exact .install resolver (.skip (.next (.install .nowhere (.next .start))))
  have ended : resumed.next.1 = none := by decide +kernel
  have last : resumed.settling = [halfPastOne 19813] := by decide +kernel
  obtain ⟨-, -, -, complete⟩ := settled_isPrefix options_compile build_eq_schedule history
  obtain ⟨all, -⟩ := complete ended
  rw [last] at all
  exact ⟨history, ended, all.symm⟩

end SpringForward

end Schedule

end Timetable
