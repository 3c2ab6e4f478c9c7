import Mathlib.Data.List.Dedup
import Mathlib.Data.List.Sort
import Timetable.Proofs.BetweenCalls
import Timetable.Proofs.Retries
import Timetable.Proofs.Years

/-!
# What a resolver is asked

What a resolver is asked, and what it answers, can be written down (`Resolver.recording`).  While a
schedule is built it is asked for the start, and then, if a clock can show the reading at the start,
for the stop if there is one; nothing is asked before it is known that the expression compiles and
that there is a zone (`Schedule.Placing`).
Afterwards it is asked in attempts only.  An attempt asks for the offset of an occurrence, and then,
if there was one that leads to an instant, for the offset at that instant (`Resolver.Attempt`).

No answer is kept for later: there is one attempt for each item that is drawn, one for each call
that is broken off and one for each occurrence that is dropped, and no other call asks anything.
The attempts are made in the order of the list ahead, with an occurrence again only as long as it
is pending (`Schedule.consulted_exactly`).

A call is broken off after the lookup that leads out of the range of clocks.  So it may be that the
start is found, and the stop is never asked for (`Schedule.FirstDay.broken_off_after_lookup`).
-/

namespace Timetable

open WallTime

set_option autoImplicit false

namespace Resolver

variable {σ : Type}

namespace Consultation

/-- The offset of a zone for a reading of its wall clock was asked for. -/
def forReading (zone : String) (wall : WallTime) (answer : Except Fault Offset) : Consultation :=
  { query := { clock := .wall, zone, time := wall }, answer }

/-- The offset of a zone at an instant was asked for. -/
def atInstant (zone : String) (utc : WallTime) (answer : Except Fault Offset) : Consultation :=
  { query := { clock := .utc, zone, time := utc }, answer }

end Consultation

open Consultation

/-! ## Attempts -/

/-- What is asked and answered in an attempt to fix an occurrence. -/
inductive Attempt (zone : String) (occurrence : WallTime) : List Consultation → Prop where
  /-- There is no offset for the occurrence. -/
  | unplaced (fault : Fault) : Attempt zone occurrence [forReading zone occurrence (.error fault)]
  /-- The offset leads to an instant that no clock can show. -/
  | hidden {offset : Offset} (beyond : ¬ (occurrence.toUtc offset).InRange) :
      Attempt zone occurrence [forReading zone occurrence (.ok offset)]
  /-- The offset at the instant is asked for as well. -/
  | looked {offset : Offset} (shown : (occurrence.toUtc offset).InRange)
      (answer : Except Fault Offset) :
      Attempt zone occurrence
        [forReading zone occurrence (.ok offset), atInstant zone (occurrence.toUtc offset) answer]

/-- What is asked and answered in attempts to fix occurrences, one after the other. -/
inductive Attempts (zone : String) : List WallTime → List Consultation → Prop where
  | nil : Attempts zone [] []
  | cons {occurrence : WallTime} {occurrences : List WallTime} {asked later : List Consultation}
      (attempt : Attempt zone occurrence asked) (others : Attempts zone occurrences later) :
      Attempts zone (occurrence :: occurrences) (asked ++ later)

variable {zone : String} {occurrence : WallTime} {asked later : List Consultation}

theorem Attempt.attempts (attempt : Attempt zone occurrence asked) :
    Attempts zone [occurrence] asked := by
  have alone := Attempts.cons attempt .nil
  rwa [List.append_nil] at alone

theorem Attempts.append {occurrences others : List WallTime}
    (first : Attempts zone occurrences asked) (second : Attempts zone others later) :
    Attempts zone (occurrences ++ others) (asked ++ later) := by
  induction first with
  | nil => exact second
  | cons attempt _ ih =>
    rw [List.append_assoc]
    exact .cons attempt ih

/-! ## Recorded lookups -/

/-- The answers are not changed by the record, to which each of them is added with its query. -/
theorem ask_recording (record : List Consultation) (inner : Resolver σ) (query : Query) :
    (inner.recording record).ask query =
      ((inner.ask query).1,
        (inner.ask query).2.recording (record ++ [{ query, answer := (inner.ask query).1 }])) := rfl

/-- To fix an occurrence is one attempt. -/
theorem fixExisting_recording (record : List Consultation) (inner : Resolver σ) (zone : String)
    (occurrence : WallTime) :
    ∃ asked, Attempt zone occurrence asked ∧
      (inner.recording record).fixExisting zone occurrence =
        ((inner.fixExisting zone occurrence).1,
          (inner.fixExisting zone occurrence).2.recording (record ++ asked)) := by
  rcases placed : inner.ask { clock := .wall, zone, time := occurrence } with
    ⟨fault | offset, behind⟩
  · refine ⟨_, .unplaced fault, ?_⟩
    simp only [fixExisting, fix, ask_recording, placed, forReading]
  · by_cases shown : (occurrence.toUtc offset).InRange
    · rcases looked : behind.ask { clock := .utc, zone, time := occurrence.toUtc offset } with
        ⟨answer, last⟩
      refine ⟨_, .looked shown answer, ?_⟩
      simp only [fixExisting, fix, zonedAt, if_pos shown, wallAt, Zoned.utc, ask_recording, placed,
        looked, List.append_assoc, List.cons_append, List.nil_append, forReading, atInstant]
      cases answer with
      | error fault => rfl
      | ok back =>
        rcases reading : readingAt (occurrence.toUtc offset) back with failure | wall <;>
          simp only [reading]
    · refine ⟨_, .hidden shown, ?_⟩
      simp only [fixExisting, fix, zonedAt, if_neg shown, ask_recording, placed, forReading]

/-- Whatever comes of an attempt, its lookups are recorded. -/
theorem attempt_of_fixExisting {resolver behind : Resolver (List Consultation × σ)}
    {inner : Resolver σ} {record : List Consultation}
    (recorded : resolver = inner.recording record) {outcome : Except Failure (Option Zoned)}
    (fixing : resolver.fixExisting zone occurrence = (outcome, behind)) :
    ∃ (later : Resolver σ) (asked : List Consultation),
      Attempt zone occurrence asked ∧ behind = later.recording (record ++ asked) := by
  obtain ⟨asked, attempt, same⟩ := fixExisting_recording record inner zone occurrence
  rw [recorded, same] at fixing
  exact ⟨_, asked, attempt, (Prod.mk.inj fixing).2.symm⟩

end Resolver

namespace Schedule

open Resolver Consultation

variable {σ τ : Type}

/-! ## New schedules -/

/-- What is asked and answered while a schedule is built. -/
inductive Placing (now : WallTime) (options : Options) : List Consultation → Prop where
  /-- The expression does not compile. -/
  | not_compiled {fault : Fault} (refused : options.compile = .error fault) : Placing now options []
  /-- There is no zone. -/
  | no_zone {fault : Fault} (missing : options.zoneName = .error fault) : Placing now options []
  /-- There is no offset for the start, or else for the current instant. -/
  | unplaced {compilation : Pattern × Option Nat} {zone : String}
      (compiled : options.compile = .ok compilation) (named : options.zoneName = .ok zone)
      (fault : Fault) : Placing now options [atInstant zone (options.start.getD now) (.error fault)]
  /-- No clock can show the reading at the start, and building is broken off. -/
  | broken {compilation : Pattern × Option Nat} {zone : String} {offset : Offset}
      (compiled : options.compile = .ok compilation) (named : options.zoneName = .ok zone)
      (beyond : ¬ ((options.start.getD now).onWall offset).InRange) :
      Placing now options [atInstant zone (options.start.getD now) (.ok offset)]
  /-- The start is placed, and no stop is given. -/
  | start {compilation : Pattern × Option Nat} {zone : String} {offset : Offset}
      (compiled : options.compile = .ok compilation) (named : options.zoneName = .ok zone)
      (shown : ((options.start.getD now).onWall offset).InRange) (no_stop : options.stop = none) :
      Placing now options [atInstant zone (options.start.getD now) (.ok offset)]
  /-- The start is placed, and the stop that is given is asked for as well. -/
  | both {compilation : Pattern × Option Nat} {zone : String} {offset : Offset} {stop : WallTime}
      (compiled : options.compile = .ok compilation) (named : options.zoneName = .ok zone)
      (shown : ((options.start.getD now).onWall offset).InRange)
      (given : options.stop = some stop) (answer : Except Fault Offset) :
      Placing now options
        [atInstant zone (options.start.getD now) (.ok offset), atInstant zone stop answer]

/-- The start is placed by what the wall clock shows, and a fault met is put into other words. -/
theorem exists_placeStart_eq (resolver : Resolver σ) (zone : String) (now : WallTime)
    (start : Option WallTime) :
    ∃ reworded : Fault → Fault, placeStart resolver zone now start =
      match resolver.wallAt zone (start.getD now) with
      | (.ok wall, resolver) => (.ok wall, resolver)
      | (.error failure, resolver) => (.error (failure.reword reworded), resolver) := by
  cases start with
  | none => exact ⟨Fault.asResolution zone, rfl⟩
  | some utc => exact ⟨asMissing, rfl⟩

/-- To place an instant on the wall clock is to ask for the offset there: there is none, or it leads
out of the range of clocks, or the instant is placed. -/
theorem placeStart_recording (record : List Consultation) (inner : Resolver σ) (zone : String)
    (now : WallTime) (start : Option WallTime) :
    ∃ later : Resolver σ,
      (∃ failure fault, placeStart (inner.recording record) zone now start =
        (.error failure,
          later.recording (record ++ [atInstant zone (start.getD now) (.error fault)]))) ∨
      (∃ failure offset, ¬ ((start.getD now).onWall offset).InRange ∧
        placeStart (inner.recording record) zone now start = (.error failure,
          later.recording (record ++ [atInstant zone (start.getD now) (.ok offset)]))) ∨
      ∃ wall offset, ((start.getD now).onWall offset).InRange ∧
        placeStart (inner.recording record) zone now start =
          (.ok wall,
            later.recording (record ++ [atInstant zone (start.getD now) (.ok offset)])) := by
  obtain ⟨reworded, placed⟩ := exists_placeStart_eq (inner.recording record) zone now start
  rw [placed]
  rcases asked : inner.ask { clock := .utc, zone, time := start.getD now } with
    ⟨fault | offset, later⟩
  · simp only [wallAt, ask_recording, asked]
    exact ⟨later, .inl ⟨_, fault, rfl⟩⟩
  · by_cases shown : ((start.getD now).onWall offset).InRange
    · simp only [wallAt, ask_recording, asked, readingAt_of_inRange shown]
      exact ⟨later, .inr (.inr ⟨_, offset, shown, rfl⟩)⟩
    · simp only [wallAt, ask_recording, asked, readingAt_of_not_inRange shown]
      exact ⟨later, .inr (.inl ⟨_, offset, shown, rfl⟩)⟩

/-- A stop is placed like a start that is given, and without a stop nothing is asked. -/
theorem placeStop_recording (record : List Consultation) (inner : Resolver σ) (zone : String)
    (stop : Option WallTime) :
    ∃ (later : Resolver σ) (asked : List Consultation),
      (placeStop (inner.recording record) zone stop).2 = later.recording (record ++ asked) ∧
        (stop = none ∧ asked = [] ∨
          ∃ utc answer, stop = some utc ∧ asked = [atInstant zone utc answer]) := by
  cases stop with
  | none => exact ⟨inner, [], by rw [List.append_nil]; rfl, .inl ⟨rfl, rfl⟩⟩
  | some utc =>
    obtain ⟨later, ⟨_, _, placed⟩ | ⟨_, _, -, placed⟩ | ⟨_, _, -, placed⟩⟩ :=
      placeStart_recording record inner zone utc (some utc)
    all_goals
      rw [placeStart] at placed
      simp only [placeStop, placed]
      exact ⟨later, _, rfl, .inr ⟨utc, _, rfl, rfl⟩⟩

/-- **While a schedule is built the resolver is asked for the start and then for the stop, or for
nothing at all**, whether a schedule comes of it or not. -/
theorem placing_of_build (now : WallTime) (options : Options) (inner : Resolver σ) :
    ∃ (later : Resolver σ) (record : List Consultation),
      (build now options (inner.recording [])).2 = later.recording record ∧
        Placing now options record := by
  rw [build]
  cases compiled : options.compile with
  | error fault => exact ⟨inner, [], rfl, .not_compiled compiled⟩
  | ok compilation =>
    cases named : options.zoneName with
    | error fault => exact ⟨inner, [], rfl, .no_zone named⟩
    | ok zone =>
      obtain ⟨started, ⟨_, fault, placed⟩ | ⟨_, offset, beyond, placed⟩ |
        ⟨_, offset, shown, placed⟩⟩ := placeStart_recording [] inner zone now options.start
      · simp only [placed]
        exact ⟨started, _, rfl, .unplaced compiled named fault⟩
      · simp only [placed]
        exact ⟨started, _, rfl, .broken compiled named beyond⟩
      · simp only [placed]
        obtain ⟨stopped, asked, placed_stop, outcome⟩ :=
          placeStop_recording _ started zone options.stop
        have record : Placing now options
            ([] ++ [atInstant zone (options.start.getD now) (.ok offset)] ++ asked) := by
          rcases outcome with ⟨no_stop, rfl⟩ | ⟨utc, answer, given, rfl⟩
          · exact .start compiled named shown no_stop
          · exact .both compiled named shown given answer
        refine ⟨stopped, _, ?_, record⟩
        rw [← placed_stop]
        -- What comes of the stop and of the window makes no difference to the record.
        split
        · rename_i behind failed
          rw [failed]
        · rename_i behind made
          rw [made]
          split <;> rfl

/-- A new schedule has the resolver that the lookups have left. -/
theorem resolver_of_build {now : WallTime} {options : Options} {resolver : Resolver σ}
    {first : Schedule σ} (built : (build now options resolver).1 = .ok first) :
    first.resolver = (build now options resolver).2 := by
  revert built
  rw [build]
  -- A step that fails leaves no schedule.
  split
  · rintro ⟨⟩
  · split
    · rintro ⟨⟩
    · split
      · rintro ⟨⟩
      · split
        · rintro ⟨⟩
        · split
          · rintro ⟨⟩
          · rintro ⟨⟩
            rfl

/-! ## One call -/

section Call

variable {schedule rest : Schedule σ} {occurrence : WallTime} {failure : Failure}
  {zoned : Zoned}

/-- The occurrences that the next call makes an attempt with: those that it settles, and the one
that it leaves pending. -/
def attempted (schedule : Schedule σ) : List WallTime :=
  schedule.settling ++ schedule.next.2.pending.toList

theorem attempted_of_fixed (advanced : schedule.advance = (.fixed zoned, rest)) :
    schedule.attempted = [zoned.wall] := by
  obtain ⟨drawn, no_drops⟩ := call_of_fixed advanced
  rw [attempted, settling, no_drops, drawn, pending_of_fixed advanced]
  rfl

theorem attempted_of_failed (advanced : schedule.advance = (.failed failure, rest))
    (pending : rest.pending = some occurrence) : schedule.attempted = [occurrence] := by
  obtain ⟨drawn, no_drops⟩ := call_of_failed advanced
  rw [attempted, settling, no_drops, drawn, pending]
  rfl

theorem attempted_of_ended (idle : schedule.Idle) (advanced : schedule.advance = (.ended, rest)) :
    schedule.attempted = [] := by
  obtain ⟨drawn, no_drops⟩ := call_of_ended advanced
  have spec := schedule.advance_spec
  rw [advanced] at spec
  have nothing : rest.pending = none := by
    rw [spec.2]
    show schedule.pending = none
    exact pending_of_ahead_eq_nil idle spec.1
  rw [attempted, settling, no_drops, drawn, nothing]
  rfl

theorem attempted_of_dropped (advanced : schedule.advance = (.dropped occurrence, rest)) :
    schedule.attempted = occurrence :: rest.attempted := by
  obtain ⟨drawn, dropped⟩ := call_of_dropped advanced
  rw [attempted, settling, dropped, drawn]
  rfl

/-- The attempts of a call are made with a beginning of the list ahead. -/
theorem attempted_isPrefix (idle : schedule.Idle) : schedule.attempted <+: schedule.ahead := by
  refine ⟨schedule.next.2.skipPending.2.ahead, ?_⟩
  rw [attempted, List.append_assoc, pending_append_ahead idle.next, settling_append_ahead]

/-- A call makes an attempt where there is an occurrence ahead. -/
theorem ahead_of_attempted_eq_nil (nothing : schedule.attempted = []) : schedule.ahead = [] := by
  have spec := schedule.advance_spec
  rcases advanced : schedule.advance with ⟨zoned | occurrence | failure | _, rest⟩
  · rw [attempted_of_fixed advanced] at nothing
    cases nothing
  · rw [attempted_of_dropped advanced] at nothing
    cases nothing
  · obtain ⟨-, -, occurrence, -, parts⟩ := eq_of_advance_failed advanced
    rw [attempted_of_failed advanced (by rw [parts])] at nothing
    cases nothing
  · rw [advanced] at spec
    exact spec.1

/-- A pending occurrence is the first that a call makes an attempt with. -/
theorem mem_attempted_of_pending (idle : schedule.Idle)
    (pending : schedule.pending = some occurrence) : occurrence ∈ schedule.attempted := by
  have ahead := pending_append_ahead idle
  rw [pending] at ahead
  have first := attempted_isPrefix idle
  cases list : schedule.attempted with
  | nil =>
    rw [ahead_of_attempted_eq_nil list] at ahead
    cases ahead
  | cons tried others =>
    rw [list, ← ahead] at first
    obtain rfl := (List.cons_prefix_cons.mp first).1
    exact List.mem_cons_self

/-- The attempts of a call are made in order, and not before what was settled or pending. -/
theorem attempted_ascending (idle : schedule.Idle) {settled : List WallTime}
    (ascending : (settled ++ schedule.ahead).Pairwise (· < ·)) :
    schedule.attempted.Pairwise (· ≤ ·) ∧
      ∀ earlier ∈ settled ++ schedule.pending.toList, ∀ tried ∈ schedule.attempted,
        earlier ≤ tried := by
  obtain ⟨-, ahead_ascending, settled_before⟩ := List.pairwise_append.mp ascending
  have initial := attempted_isPrefix idle
  refine ⟨(ahead_ascending.sublist initial.sublist).imp le_of_lt, ?_⟩
  intro earlier member tried tried_member
  have tried_ahead := initial.subset tried_member
  rcases List.mem_append.mp member with settled_member | pending
  · exact le_of_lt (settled_before earlier settled_member tried tried_ahead)
  · -- The pending occurrence is the first of the list ahead.
    rw [← pending_append_ahead idle, Option.mem_toList.mp pending] at ahead_ascending tried_ahead
    rcases List.mem_cons.mp tried_ahead with rfl | later
    · exact le_refl _
    · exact le_of_lt ((List.pairwise_cons.mp ahead_ascending).1 tried later)

end Call

/-- **A call makes one attempt for each occurrence that it drops, and one for the item drawn**; the
record is extended by what is asked in them. -/
theorem attempts_of_next {schedule : Schedule (List Consultation × σ)} {inner : Resolver σ}
    {record : List Consultation} (recorded : schedule.resolver = inner.recording record)
    (idle : schedule.Idle) :
    schedule.attempted.length = schedule.drops.length + schedule.next.1.toList.length ∧
      ∃ (later : Resolver σ) (asked : List Consultation),
        Attempts schedule.zone schedule.attempted asked ∧
          schedule.next.2.resolver = later.recording (record ++ asked) := by
  fun_induction next schedule generalizing inner record with
  | case1 schedule zoned rest advanced =>
    have spec := schedule.advance_spec
    rw [advanced] at spec
    obtain ⟨later, asked, attempt, same⟩ := attempt_of_fixExisting recorded spec.2.1
    rw [attempted_of_fixed advanced, (call_of_fixed advanced).2]
    exact ⟨rfl, later, asked, attempt.attempts, same⟩
  | case2 schedule failure rest advanced =>
    obtain ⟨-, -, occurrence, refuses, parts⟩ := eq_of_advance_failed advanced
    obtain ⟨later, asked, attempt, same⟩ :=
      attempt_of_fixExisting recorded (fixExisting_eq_error_iff.mpr refuses)
    rw [attempted_of_failed advanced (by rw [parts]), (call_of_failed advanced).2]
    exact ⟨rfl, later, asked, attempt.attempts, same⟩
  | case3 schedule rest advanced =>
    have spec := schedule.advance_spec
    rw [advanced] at spec
    rw [attempted_of_ended idle advanced, (call_of_ended advanced).2]
    refine ⟨rfl, inner, [], .nil, ?_⟩
    rw [List.append_nil, spec.2, ← recorded]
  | case4 schedule occurrence rest advanced ih =>
    have spec := schedule.advance_spec
    rw [advanced] at spec
    obtain ⟨-, fixing, zone, running⟩ := spec
    obtain ⟨later, asked, attempt, same⟩ := attempt_of_fixExisting recorded fixing
    obtain ⟨count, last, others_asked, others, recorded_last⟩ := ih same (.of_running running)
    rw [zone] at others
    rw [attempted_of_dropped advanced, (call_of_dropped advanced).2]
    refine ⟨?_, last, asked ++ others_asked, .cons attempt others, ?_⟩
    · rw [List.length_cons, List.length_cons, count]
      omega
    · rw [recorded_last, List.append_assoc]

/-! ## Calls in any order -/

/-- A transcript leads from `first` to a schedule by calls in any order, the resolvers installed
writing the record on: `items` were drawn meanwhile, a call that was broken off being counted as an
item that tells so, and `dropped` on the way. -/
inductive Transcript (first : Schedule (List Consultation × σ)) :
    {τ : Type} → List Item → List WallTime → Schedule (List Consultation × τ) → Prop where
  /-- Nothing has happened. -/
  | start : Transcript first [] [] first
  /-- An item was drawn, or none was left. -/
  | next {τ : Type} {items : List Item} {dropped : List WallTime}
      {schedule : Schedule (List Consultation × τ)} :
      Transcript first items dropped schedule →
        Transcript first (items ++ schedule.next.1.toList) (dropped ++ schedule.drops)
          schedule.next.2
  /-- The pending occurrence, if there was one, was skipped. -/
  | skip {τ : Type} {items : List Item} {dropped : List WallTime}
      {schedule : Schedule (List Consultation × τ)} :
      Transcript first items dropped schedule →
        Transcript first items dropped schedule.skipPending.2
  /-- Another resolver was installed. -/
  | install {τ υ : Type} {items : List Item} {dropped : List WallTime}
      {schedule : Schedule (List Consultation × τ)} (resolver : Resolver υ) :
      Transcript first items dropped schedule →
        Transcript first items dropped
          (schedule.setResolver (resolver.recording schedule.resolver.state.1))

/-- What is asked in a transcript is asked in attempts, one for each item and for each occurrence
dropped.  They are made in order, with the occurrences settled and the one that is pending. -/
theorem Transcript.attempts {first : Schedule (List Consultation × σ)} {inner : Resolver σ}
    {record : List Consultation} (recorded : first.resolver = inner.recording record)
    (fresh : first.pending = none) (ascending : first.ahead.Pairwise (· < ·)) {items : List Item}
    {dropped : List WallTime} {schedule : Schedule (List Consultation × τ)}
    (transcript : Transcript first items dropped schedule) :
    schedule.zone = first.zone ∧
      ∃ (last : Resolver τ) (settled occurrences : List WallTime) (asked : List Consultation),
        History first settled schedule ∧ schedule.resolver = last.recording (record ++ asked) ∧
          Attempts first.zone occurrences asked ∧
            occurrences.length = items.length + dropped.length ∧
              occurrences.Pairwise (· ≤ ·) ∧
                ∀ occurrence, occurrence ∈ occurrences ↔
                  occurrence ∈ settled ++ schedule.pending.toList := by
  have first_idle : first.Idle := fun _ => fresh
  induction transcript with
  | start =>
    refine ⟨rfl, inner, [], [], [], .start, ?_, .nil, rfl, .nil, ?_⟩
    · rw [List.append_nil, recorded]
    · rw [fresh]
      exact fun _ => Iff.rfl
  | @next τ items dropped schedule _ ih =>
    obtain ⟨zone, last, settled, occurrences, asked, history, recorded, tried, count, order,
      members⟩ := ih
    obtain ⟨balance, idle⟩ := history.balance first_idle
    obtain ⟨call_count, later, call_asked, call_tried, call_recorded⟩ :=
      attempts_of_next recorded idle
    rw [zone] at call_tried
    refine ⟨schedule.next_eq_draw.2.1.trans zone, later, _, occurrences ++ schedule.attempted,
      asked ++ call_asked, history.next, ?_, tried.append call_tried, ?_, ?_, ?_⟩
    · rw [call_recorded, List.append_assoc]
    · rw [List.length_append, List.length_append, List.length_append, count, call_count]
      omega
    · obtain ⟨call_order, later_tried⟩ := attempted_ascending idle (balance ▸ ascending)
      refine List.pairwise_append.mpr ⟨order, call_order, fun earlier member => ?_⟩
      exact later_tried earlier ((members earlier).mp member)
    · intro occurrence
      rw [List.append_assoc, ← attempted, List.mem_append, List.mem_append, members,
        List.mem_append, Option.mem_toList]
      constructor
      · rintro ((was_settled | pending) | tried)
        · exact .inl was_settled
        · exact .inr (mem_attempted_of_pending idle pending)
        · exact .inr tried
      · exact Or.imp_left .inl
  | @skip τ items dropped schedule _ ih =>
    obtain ⟨zone, last, settled, occurrences, asked, history, recorded, tried, count, order,
      members⟩ := ih
    refine ⟨zone, last, _, occurrences, asked, history.skip, recorded, tried, count, order, ?_⟩
    intro occurrence
    rw [members]
    show _ ↔ occurrence ∈ (settled ++ schedule.pending.toList) ++ []
    rw [List.append_nil]
  | @install τ υ items dropped schedule resolver _ ih =>
    obtain ⟨zone, last, settled, occurrences, asked, history, recorded, tried, count, order,
      members⟩ := ih
    refine ⟨zone, resolver, settled, occurrences, asked, history.install _, ?_, tried, count, order,
      members⟩
    show resolver.recording schedule.resolver.state.1 = resolver.recording (record ++ asked)
    rw [recorded]
    rfl

/-! ## The whole record -/

/-- All that is ahead of a new schedule are candidates of its window that all filters accept. -/
theorem candidate_of_mem_ahead {now : WallTime} {options : Options} {resolver : Resolver σ}
    {first : Schedule σ} {pattern : Pattern} {year : Option Nat}
    (compiled : options.compile = .ok (pattern, year))
    (built : (build now options resolver).1 = .ok first) :
    ∀ occurrence ∈ first.ahead, Candidate pattern first.window occurrence ∧
      ∀ filter ∈ options.filters ++ [Filter.ofYear year], filter occurrence = .accept := by
  obtain ⟨_, _, _, window, _, _, -, -, -, -, rfl⟩ := eq_ofWindow_of_build compiled built
  intro occurrence member
  obtain ⟨candidate, accepted⟩ :=
    (drawsFrom_searchFor pattern window year).of_mem_accepted occurrence member
  rw [Chain.decide_eq_verdict, verdict_eq_accept_iff] at accepted
  exact ⟨candidate, accepted⟩

/-- An ascending list with repetitions has the members of another that has none: without the
repetitions the two are the same. -/
theorem dedup_eq_of_ascending {occurrences distinct : List WallTime}
    (order : occurrences.Pairwise (· ≤ ·)) (ascending : distinct.Pairwise (· < ·))
    (members : ∀ occurrence, occurrence ∈ occurrences ↔ occurrence ∈ distinct) :
    occurrences.dedup = distinct := by
  have strict : occurrences.dedup.Pairwise (· < ·) :=
    (order.sublist (List.dedup_sublist _)).imp₂ (fun _ _ => lt_of_le_of_ne) (List.nodup_dedup _)
  refine strict.eq_of_mem_iff ascending fun occurrence => ?_
  rw [List.mem_dedup, members]

/-- **A resolver is asked what is needed, and again each time that it is needed.**  While a schedule
is built it is asked for the start and, once this is placed, for the stop.  Whatever is called
afterwards, the record goes on with the attempts: one for each item that was drawn, or whose call
was broken off, and one for each occurrence that was dropped.  They are made in the order of the
list ahead, with candidates that all filters let through.  Neither skipping nor a call behind the
end asks anything. -/
theorem consulted_exactly (now : WallTime) (options : Options) (resolver : Resolver σ) :
    let built := build now options (resolver.recording [])
    Placing now options built.2.state.1 ∧
      ∀ pattern year first, options.compile = .ok (pattern, year) → built.1 = .ok first →
        ∀ {τ : Type} {items : List Item} {dropped : List WallTime}
          {schedule : Schedule (List Consultation × τ)},
          Transcript first items dropped schedule →
            (∃ zone occurrences asked, options.zoneName = .ok zone ∧
              schedule.resolver.state.1 = built.2.state.1 ++ asked ∧
                Attempts zone occurrences asked ∧
                  occurrences.length = items.length + dropped.length ∧
                    occurrences.Pairwise (· ≤ ·) ∧ occurrences.dedup <+: first.ahead ∧
                      ∀ occurrence ∈ occurrences, Candidate pattern first.window occurrence ∧
                        ∀ filter ∈ options.filters ++ [Filter.ofYear year],
                          filter occurrence = .accept) ∧
              schedule.skipPending.2.resolver = schedule.resolver ∧
                (schedule.finished = true → schedule.next.2.resolver = schedule.resolver) := by
  intro built
  obtain ⟨behind, record, recorded, placing⟩ := placing_of_build now options resolver
  have at_first : built.2.state.1 = record := by
    show (build now options (resolver.recording [])).2.state.1 = record
    rw [recorded]
    rfl
  rw [at_first]
  refine ⟨placing, fun pattern year first compiled made τ items dropped schedule transcript => ?_⟩
  have fresh : first.pending = none := by
    obtain ⟨_, _, _, _, _, _, -, -, -, -, rfl⟩ := eq_ofWindow_of_build compiled made
    rfl
  have named : options.zoneName = .ok first.zone := by
    obtain ⟨_, _, _, _, _, _, named, -, -, -, rfl⟩ := eq_ofWindow_of_build compiled made
    exact named
  obtain ⟨ascending, -⟩ := ahead_within_of_build made
  obtain ⟨-, last, settled, occurrences, asked, history, logged, tried, count, order, members⟩ :=
    transcript.attempts ((resolver_of_build made).trans recorded) fresh ascending
  obtain ⟨balance, idle⟩ := history.balance fun _ => fresh
  have initial : settled ++ schedule.pending.toList <+: first.ahead := by
    rw [← balance, ← pending_append_ahead idle, ← List.append_assoc]
    exact List.prefix_append _ _
  refine ⟨⟨first.zone, occurrences, asked, named, ?_, tried, count, order, ?_, ?_⟩, rfl, ?_⟩
  · rw [logged]
    rfl
  · rwa [dedup_eq_of_ascending order (ascending.sublist initial.sublist) members]
  · intro occurrence member
    exact candidate_of_mem_ahead compiled made occurrence
      (initial.subset ((members occurrence).mp member))
  · intro finished
    rw [next_of_finished finished]

namespace SpringForward

/-- The schedule whose resolver is written down, the start having been asked for. -/
def recorded : Schedule (List Consultation × Unit) :=
  ofWindow options "Europe/London" pattern (some 2024) window
    (resolver.recording [.atInstant "Europe/London" (midnight ⟨19723⟩) (.ok ⟨0⟩)])

/-- The 29th was emitted, and with no zone known the 30th could not be fixed. -/
def recordedStranded : Schedule (List Consultation × Unit) :=
  (recorded.next.2.setResolver
    (Resolver.nowhere.recording recorded.next.2.resolver.state.1)).next.2

/-- The 30th was skipped, and with the zone known again the 31st was dropped. -/
def recordedEnded : Schedule (List Consultation × Unit) :=
  (recordedStranded.skipPending.2.setResolver
    (resolver.recording recordedStranded.skipPending.2.resolver.state.1)).next.2

/-- The start is asked for; then either clock for the 29th, the wall clock alone for the 30th, and
either clock for the 31st: three attempts for two items and one occurrence dropped.  The 28th, which
a filter rejects, is not asked for. -/
theorem asked_for_each_attempt :
    (build (midnight ⟨0⟩) options (resolver.recording [])).1 = .ok recorded ∧
      ∃ items dropped, Transcript recorded items dropped recordedEnded ∧ items.length = 2 ∧
        dropped = [halfPastOne 19813] ∧
          recordedEnded.resolver.state.1.map Consultation.query =
            [⟨.utc, "Europe/London", midnight ⟨19723⟩⟩,
              ⟨.wall, "Europe/London", halfPastOne 19811⟩,
              ⟨.utc, "Europe/London", halfPastOne 19811⟩,
              ⟨.wall, "Europe/London", halfPastOne 19812⟩,
              ⟨.wall, "Europe/London", halfPastOne 19813⟩,
              ⟨.utc, "Europe/London", halfPastOne 19813⟩] ∧
            ∃ occurrences asked, Attempts "Europe/London" occurrences asked ∧
              occurrences.length = 3 := by
  have built : (build (midnight ⟨0⟩) options (resolver.recording [])).1 = .ok recorded := by
    simp only [build, options_compile]
    rfl
  have to_stranded : Transcript recorded _ _ recordedStranded :=
    .next (.install .nowhere (.next .start))
  have to_ended : Transcript recorded _ _ recordedEnded :=
    .next (.install resolver (.skip to_stranded))
  obtain ⟨-, later⟩ := consulted_exactly (midnight ⟨0⟩) options resolver
  obtain ⟨⟨zone, occurrences, asked, named, -, tried, count, -⟩, -⟩ :=
    later pattern (some 2024) recorded options_compile built to_ended
  cases named
  refine ⟨built, _, _, to_ended, by decide +kernel, by decide +kernel, by decide +kernel,
    occurrences, asked, tried, count.trans ?_⟩
  decide +kernel

end SpringForward

/-! ### Behind the first reading

The wall clock shows universal time, but is an hour behind it during the first two hours of all.  In
the first of them it would have to show what no clock can. -/

namespace FirstDay

def resolverBehind : Resolver Unit :=
  .ofTables ⟨⟨0⟩, []⟩ ⟨⟨-3600⟩, [(first.shift 7200, ⟨0⟩)]⟩

/-- Every minute from the instant on at which the first reading is shown. -/
def optionsFromSecondHour : Options := .everyMinute "X" (some (first.shift 3600)) none

/-- The schedule whose resolver is written down, the start having been asked for. -/
def recorded : Schedule (List Consultation × Unit) :=
  ofWindow optionsFromSecondHour "X" .everyMinute none window
    (resolverBehind.recording [.atInstant "X" (first.shift 3600) (.ok ⟨-3600⟩)])

theorem placeStart_eq :
    placeStart (resolverBehind.recording []) "X" (midnight ⟨0⟩) optionsFromSecondHour.start =
      (.ok first, recorded.resolver) := by
  have asked : (resolverBehind.recording []).ask
      { clock := .utc, zone := "X", time := first.shift 3600 } =
        (.ok ⟨-3600⟩, recorded.resolver) := by rfl
  have shown : (first.shift 3600).onWall ⟨-3600⟩ = first := by decide
  simp only [optionsFromSecondHour, Options.everyMinute, placeStart, placeGiven, wallAt, asked,
    readingAt, shown]
  rw [if_pos (by decide)]

theorem build_eq_recorded :
    (build (midnight ⟨0⟩) optionsFromSecondHour (resolverBehind.recording [])).1 =
      .ok recorded := by
  have compiled : optionsFromSecondHour.compile = .ok (.everyMinute, none) :=
    Options.compile_everyMinute _ _ _
  have named : optionsFromSecondHour.zoneName = .ok "X" := by rfl
  simp only [build, compiled, named, placeStart_eq]
  rfl

/-- The call is broken off in the attempt with the first reading, for which both offsets are
known. -/
theorem next_recorded :
    recorded.next.1 = some (.error .overrun) ∧ recorded.drops = [] ∧
      recorded.next.2.resolver.state.1 = recorded.resolver.state.1 ++
        [.forReading "X" first (.ok ⟨0⟩), .atInstant "X" first (.ok ⟨-3600⟩)] := by
  obtain ⟨others, ahead⟩ : ∃ others, recorded.ahead = first :: others :=
    Search.exists_accepted_eq_cons (by decide +kernel)
  have fixing : recorded.resolver.fixExisting recorded.zone first =
      (.error .overrun, resolverBehind.recording (recorded.resolver.state.1 ++
        [.forReading "X" first (.ok ⟨0⟩), .atInstant "X" first (.ok ⟨-3600⟩)])) := by rfl
  obtain ⟨-, search, -, advanced⟩ := advance_of_ahead_eq_cons ahead
  simp only [attempt, fixing] at advanced
  obtain ⟨drawn, no_drops⟩ := call_of_failed advanced
  rw [drawn]
  exact ⟨rfl, no_drops, rfl⟩

/-- From the first instant on no schedule is built: there is an offset for the start, but the stop
is not asked for.  From an hour later on there is a schedule.  The attempt with its first occurrence
asks for both offsets, and comes neither to an occurrence nor to a drop. -/
theorem broken_off_after_lookup :
    let unbuilt := build (midnight ⟨0⟩) (.everyMinute "X" (some first) (some (first.shift 86400)))
      (resolverBehind.recording [])
    unbuilt.1 = .error .overrun ∧ unbuilt.2.state.1 = [.atInstant "X" first (.ok ⟨-3600⟩)] ∧
      (build (midnight ⟨0⟩) (.everyMinute "X" (some (first.shift 3600)) none)
          (resolverBehind.recording [])).1 = .ok recorded ∧
        recorded.next.1 = some (.error .overrun) ∧ recorded.drops = [] ∧
          recorded.next.2.resolver.state.1 = recorded.resolver.state.1 ++
            [.forReading "X" first (.ok ⟨0⟩), .atInstant "X" first (.ok ⟨-3600⟩)] := by
  refine ⟨?_, ?_, build_eq_recorded, next_recorded⟩
  all_goals
    simp only [build, Options.compile_everyMinute]
    rfl

end FirstDay

end Schedule

end Timetable
