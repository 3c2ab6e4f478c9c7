import Timetable.Proofs.Retries
import Timetable.Proofs.Years

/-!
# Filters that select

A filter that ends nothing selects: placed behind all other filters of the caller, it takes
what it rejects out of the sequence and changes nothing else (`Schedule.items_of_selected`).

It stands before the filter of the year all the same, and may reject the very candidate at
which the year would have ended the sequence.  The search goes on then, but all that it can
find is of later years, which the filter of the year does not accept either
(`chosen_selected`).

What a schedule emits with a steady resolver are the occurrences ahead of the first that
cannot be fixed, since it leads out of the range of clocks; on that one every further call
fails (`Schedule.nthItem_of_steady`).  A filter that rejects such an occurrence opens the way
to those behind it, which the schedule without the filter never emits
(`Schedule.FirstDay.second_new_year_reached`).
-/

namespace Timetable

open Calendar WallTime

set_option autoImplicit false

/-! ## What a selecting filter chooses -/

section Choice

variable {filters : List Filter} {selects : Filter} {minutes : List WallTime}

/-- The filter of a year ends the sequence behind the year only. -/
theorem Filter.exists_year_lt_of_terminate {year : Option Nat} {minute : WallTime}
    (ended : Filter.ofYear year minute = .terminate) :
    ∃ last, year = some last ∧ last < minute.year := by
  cases year with
  | none => cases ended
  | some last =>
    refine ⟨last, rfl, ?_⟩
    simp only [Filter.ofYear] at ended
    split_ifs at ended
    omega

/-- **Of an ascending list a filter that ends nothing, placed before the year, chooses what it
accepts of what is chosen without it.** -/
theorem chosen_selected {year : Option Nat} (ascending : minutes.Pairwise (· < ·))
    (no_end : ∀ minute, selects minute ≠ .terminate) :
    chosen (filters ++ [selects] ++ [Filter.ofYear year]) minutes =
      (chosen (filters ++ [Filter.ofYear year]) minutes).filter fun minute =>
        selects minute = .accept := by
  induction minutes with
  | nil => rfl
  | cons minute later ih =>
    obtain ⟨after, later_ascending⟩ := List.pairwise_cons.mp ascending
    have rest := ih later_ascending
    rw [chosen_cons, chosen_cons, verdict_concat, verdict_concat, verdict_concat]
    cases own : verdict filters minute with
    | reject => simpa using rest
    | terminate => simp
    | accept =>
      cases selected : selects minute with
      | terminate => exact absurd selected (no_end minute)
      | accept =>
        cases by_year : Filter.ofYear year minute with
        | accept => simpa [selected] using rest
        | reject => simpa using rest
        | terminate => simp
      | reject =>
        cases by_year : Filter.ofYear year minute with
        | accept => simpa [selected] using rest
        | reject => simpa using rest
        | terminate =>
          -- The year is over for all later candidates as well.
          obtain ⟨last, rfl, beyond⟩ := Filter.exists_year_lt_of_terminate by_year
          have all_beyond : ∀ other ∈ later, (last : Int) < other.year := fun other member =>
            lt_of_lt_of_le beyond (year_le_year (after other member).le)
          have nothing : chosen (filters ++ [selects] ++ [Filter.ofYear (some last)]) later = [] :=
            chosen_of_later all_beyond
          simpa using nothing

end Choice

/-! ## Draws up to an occurrence that cannot be fixed -/

namespace Resolver

variable {offset : Query → Offset} {zone : String} {occurrences : List WallTime}
  {occurrence : WallTime}

/-- The occurrences ahead of the first that cannot be fixed. -/
def reachable (offset : Query → Offset) (zone : String) (occurrences : List WallTime) :
    List WallTime := occurrences.takeWhile (Fixable offset zone ·)

/-- The first occurrence that cannot be fixed. -/
def unfixable? (offset : Query → Offset) (zone : String) (occurrences : List WallTime) :
    Option WallTime := occurrences.find? (¬ Fixable offset zone ·)

/-- The failure to fix an occurrence that cannot be fixed. -/
def failureOf (offset : Query → Offset) (zone : String) (occurrence : WallTime) : Failure :=
  let zoned := zonedBy offset zone occurrence
  if zoned.utc.InRange then .overrun
  else .fault (.resolution zone (.unrepresentable occurrence zoned.offset))

theorem fixedBy_of_not_fixable (unfixable : ¬ Fixable offset zone occurrence) :
    fixedBy offset zone occurrence = .error (failureOf offset zone occurrence) := by
  by_cases instant : (zonedBy offset zone occurrence).utc.InRange
  · simp only [fixedBy, failureOf, if_pos instant]
    exact if_neg fun shown => unfixable ⟨instant, shown⟩
  · simp only [fixedBy, failureOf, if_neg instant]

theorem reachable_cons_of_fixable (fixable : Fixable offset zone occurrence) :
    reachable offset zone (occurrence :: occurrences) =
      occurrence :: reachable offset zone occurrences :=
  List.takeWhile_cons_of_pos (by simpa using fixable)

theorem unfixable?_cons_of_fixable (fixable : Fixable offset zone occurrence) :
    unfixable? offset zone (occurrence :: occurrences) = unfixable? offset zone occurrences :=
  List.find?_cons_of_neg (by simpa using fixable)

theorem reachable_cons_of_not_fixable (unfixable : ¬ Fixable offset zone occurrence) :
    reachable offset zone (occurrence :: occurrences) = [] :=
  List.takeWhile_cons_of_neg (by simpa using unfixable)

theorem unfixable?_cons_of_not_fixable (unfixable : ¬ Fixable offset zone occurrence) :
    unfixable? offset zone (occurrence :: occurrences) = some occurrence :=
  List.find?_cons_of_pos (by simpa using unfixable)

theorem occurring_cons_of_missing (missing : fixedBy offset zone occurrence = .ok none) :
    occurring offset zone (occurrence :: occurrences) = occurring offset zone occurrences := by
  rw [occurring, List.filter_cons_of_neg (by simp [fixExisting_ofOffsets, missing]), occurring]

theorem occurring_cons_of_existing
    (existing : fixedBy offset zone occurrence = .ok (some (zonedBy offset zone occurrence))) :
    occurring offset zone (occurrence :: occurrences) =
      zonedBy offset zone occurrence :: occurring offset zone occurrences := by
  rw [occurring, List.filter_cons_of_pos (by simp [fixExisting_ofOffsets, existing]),
    List.map_cons, occurring]

/-- **A draw takes the first of the occurrences that can be reached and that the wall clock shows,
and fails on the one that cannot be fixed when none is left before it.** -/
theorem drawBy_spec (offset : Query → Offset) (zone : String) (occurrences : List WallTime) :
    let drawn := drawBy offset zone occurrences
    drawn.1 = ((occurring offset zone (reachable offset zone occurrences)).head?.map .ok).or
        ((unfixable? offset zone occurrences).map fun unfixable =>
          .error (failureOf offset zone unfixable)) ∧
      occurring offset zone (reachable offset zone drawn.2) =
        (occurring offset zone (reachable offset zone occurrences)).tail ∧
        unfixable? offset zone drawn.2 = unfixable? offset zone occurrences := by
  intro drawn
  induction occurrences with
  | nil => exact ⟨rfl, rfl, rfl⟩
  | cons occurrence others ih =>
    by_cases fixable : Fixable offset zone occurrence
    · rw [reachable_cons_of_fixable fixable, unfixable?_cons_of_fixable fixable]
      rcases fixable.fixedBy with missing | existing
      · have passed : drawn = drawBy offset zone others := by
          simp only [drawn, drawBy, missing]
        rw [passed, occurring_cons_of_missing missing]
        exact ih
      · have taken : drawn = (some (.ok (zonedBy offset zone occurrence)), others) := by
          simp only [drawn, drawBy, existing]
        rw [taken, occurring_cons_of_existing existing]
        exact ⟨rfl, rfl, rfl⟩
    · have stays : drawn = (some (.error (failureOf offset zone occurrence)),
          occurrence :: others) := by
        simp only [drawn, drawBy, fixedBy_of_not_fixable fixable]
      rw [stays, reachable_cons_of_not_fixable fixable, unfixable?_cons_of_not_fixable fixable]
      exact ⟨rfl, rfl, rfl⟩

/-- A draw that fails leaves the occurrence in front that cannot be fixed. -/
theorem head?_of_drawBy_error {failure : Failure} {left : List WallTime}
    (drawn : drawBy offset zone occurrences = (some (.error failure), left)) :
    left.head? = unfixable? offset zone occurrences := by
  induction occurrences with
  | nil => cases drawn
  | cons occurrence others ih =>
    rw [drawBy] at drawn
    by_cases fixable : Fixable offset zone occurrence
    · rw [unfixable?_cons_of_fixable fixable]
      rcases fixable.fixedBy with missing | existing
      · rw [missing] at drawn
        exact ih drawn
      · rw [existing] at drawn
        cases drawn
    · rw [fixedBy_of_not_fixable fixable] at drawn
      cases drawn
      rw [unfixable?_cons_of_not_fixable fixable]
      rfl

/-- What can be reached of a part of a list is the same part of what can be reached, if the part has
the first occurrence that cannot be fixed. -/
theorem reachable_filter {keeps : WallTime → Bool}
    (kept : ∀ unfixable ∈ unfixable? offset zone occurrences, keeps unfixable = true) :
    reachable offset zone (occurrences.filter keeps) =
        (reachable offset zone occurrences).filter keeps ∧
      unfixable? offset zone (occurrences.filter keeps) = unfixable? offset zone occurrences := by
  induction occurrences with
  | nil => exact ⟨rfl, rfl⟩
  | cons occurrence others ih =>
    by_cases fixable : Fixable offset zone occurrence
    · rw [unfixable?_cons_of_fixable fixable] at kept
      obtain ⟨reached, stuck⟩ := ih kept
      rw [reachable_cons_of_fixable fixable, unfixable?_cons_of_fixable fixable]
      cases keep : keeps occurrence with
      | false =>
        rw [List.filter_cons_of_neg (by simp [keep]), List.filter_cons_of_neg (by simp [keep])]
        exact ⟨reached, stuck⟩
      | true =>
        rw [List.filter_cons_of_pos keep, List.filter_cons_of_pos keep,
          reachable_cons_of_fixable fixable, unfixable?_cons_of_fixable fixable, reached]
        exact ⟨rfl, stuck⟩
    · rw [unfixable?_cons_of_not_fixable fixable] at kept
      rw [List.filter_cons_of_pos (kept occurrence rfl), reachable_cons_of_not_fixable fixable,
        reachable_cons_of_not_fixable fixable, unfixable?_cons_of_not_fixable fixable,
        unfixable?_cons_of_not_fixable fixable]
      exact ⟨rfl, rfl⟩

/-- Without that occurrence, what could be reached before it still comes first. -/
theorem filter_reachable_isPrefix (offset : Query → Offset) (zone : String)
    (occurrences : List WallTime) (keeps : WallTime → Bool) :
    (reachable offset zone occurrences).filter keeps <+:
      reachable offset zone (occurrences.filter keeps) := by
  induction occurrences with
  | nil => exact List.prefix_refl _
  | cons occurrence others ih =>
    by_cases fixable : Fixable offset zone occurrence
    · rw [reachable_cons_of_fixable fixable]
      cases keep : keeps occurrence with
      | false =>
        rw [List.filter_cons_of_neg (by simp [keep]), List.filter_cons_of_neg (by simp [keep])]
        exact ih
      | true =>
        rw [List.filter_cons_of_pos keep, List.filter_cons_of_pos keep,
          reachable_cons_of_fixable fixable]
        exact (List.prefix_cons_inj occurrence).mpr ih
    · rw [reachable_cons_of_not_fixable fixable]
      exact List.nil_prefix

/-- What occurs of the beginning of a list comes first. -/
theorem occurring_isPrefix {beginning : List WallTime} (first : beginning <+: occurrences) :
    occurring offset zone beginning <+: occurring offset zone occurrences :=
  (first.filter _).map _

end Resolver

namespace Schedule

section Selection

variable {σ : Type} {offset : Query → Offset} {now : WallTime} {options : Options}
  {resolver : Resolver σ} {selects : Filter}

/-! ## All that a schedule emits -/

/-- The occurrences that a schedule emits by given offsets, up to the first that cannot be fixed. -/
def emittedBy (offset : Query → Offset) (schedule : Schedule σ) : List Zoned :=
  Resolver.occurring offset schedule.zone
    (Resolver.reachable offset schedule.zone schedule.ahead)

/-- The failure that a schedule ends up with by given offsets, if there is one. -/
def impasseBy (offset : Query → Offset) (schedule : Schedule σ) : Option Failure :=
  (Resolver.unfixable? offset schedule.zone schedule.ahead).map
    (Resolver.failureOf offset schedule.zone)

/-- **A schedule with a steady resolver emits the occurrences that can be reached, and behind them
every call fails on the one that cannot be fixed.** -/
theorem nthItem_of_steady {schedule : Schedule σ} (steady : schedule.resolver.Steady offset)
    (count : Nat) :
    schedule.nthItem count = ((schedule.emittedBy offset)[count]?.map .ok).or
      ((schedule.impasseBy offset).map .error) := by
  induction count generalizing schedule with
  | zero =>
    obtain ⟨-, -, drawn⟩ := next_of_steady steady
    obtain ⟨item, -, -⟩ := Resolver.drawBy_spec offset schedule.zone schedule.ahead
    rw [drawn] at item
    rw [← List.head?_eq_getElem?, impasseBy, Option.map_map]
    exact item
  | succ count ih =>
    obtain ⟨later_steady, zone, drawn⟩ := next_of_steady steady
    obtain ⟨-, emitted, stuck⟩ := Resolver.drawBy_spec offset schedule.zone schedule.ahead
    rw [drawn, ← zone] at emitted stuck
    have later := ih later_steady
    rw [emittedBy, impasseBy, emitted, stuck, List.getElem?_tail, zone] at later
    exact later

/-- That occurrence is pending from some call on. -/
theorem exists_pending_of_unfixable {schedule : Schedule σ}
    (steady : schedule.resolver.Steady offset) {unfixable : WallTime}
    (stuck : Resolver.unfixable? offset schedule.zone schedule.ahead = some unfixable) :
    ∃ count, (schedule.after count).pending = some unfixable := by
  -- A call emits an occurrence, so that there are fewer left to emit, or it fails.
  induction left : schedule.emittedBy offset generalizing schedule with
  | nil =>
    obtain ⟨-, -, drawn⟩ := next_of_steady steady
    obtain ⟨item, -, -⟩ := Resolver.drawBy_spec offset schedule.zone schedule.ahead
    rw [emittedBy] at left
    rw [left, stuck, drawn] at item
    refine ⟨1, ?_⟩
    show schedule.next.2.pending = some unfixable
    rw [← head?_ahead_of_failed item, ← stuck]
    exact Resolver.head?_of_drawBy_error (drawn.trans (Prod.ext item rfl))
  | cons zoned others ih =>
    obtain ⟨later_steady, zone, drawn⟩ := next_of_steady steady
    obtain ⟨-, emitted, still_stuck⟩ := Resolver.drawBy_spec offset schedule.zone schedule.ahead
    rw [drawn, ← zone] at emitted still_stuck
    rw [zone, stuck, ← zone] at still_stuck
    have fewer : schedule.next.2.emittedBy offset = others := by
      rw [emittedBy, emitted, zone]
      exact congrArg List.tail left
    obtain ⟨count, pending⟩ := ih later_steady still_stuck fewer
    exact ⟨count + 1, pending⟩

/-- No other occurrence is ever left pending. -/
theorem unfixable?_of_pending {schedule : Schedule σ} (steady : schedule.resolver.Steady offset)
    (idle : schedule.Idle) {count : Nat} {occurrence : WallTime}
    (pending : (schedule.after (count + 1)).pending = some occurrence) :
    Resolver.unfixable? offset schedule.zone schedule.ahead = some occurrence := by
  obtain ⟨later_steady, zone, drawn⟩ := next_of_steady steady
  induction count generalizing schedule with
  | zero =>
    change schedule.next.2.pending = some occurrence at pending
    obtain ⟨failure, failed⟩ : ∃ failure, schedule.next.1 = some (.error failure) := by
      by_contra no_failure
      rw [(pending_next_eq_none_iff idle).mpr fun failure => not_exists.mp no_failure failure]
        at pending
      cases pending
    rw [← pending, ← head?_ahead_of_failed failed]
    exact (Resolver.head?_of_drawBy_error (drawn.trans (Prod.ext failed rfl))).symm
  | succ count ih =>
    obtain ⟨-, -, same⟩ := Resolver.drawBy_spec offset schedule.zone schedule.ahead
    obtain ⟨last_steady, last_zone, last_drawn⟩ := next_of_steady later_steady
    have stuck := ih later_steady idle.next pending last_steady last_zone last_drawn
    rw [zone] at stuck
    rw [drawn, stuck] at same
    exact same.symm

/-- Where no call fails nothing is ever pending. -/
theorem pending_after_of_no_failure {schedule : Schedule σ} (fresh : schedule.pending = none)
    (no_failure : ∀ count failure, schedule.nthItem count ≠ some (.error failure)) (count : Nat) :
    (schedule.after count).pending = none := by
  have idle (count : Nat) : (schedule.after count).Idle := by
    induction count with
    | zero => exact fun _ => fresh
    | succ count ih =>
      rw [after_succ]
      exact ih.next
  cases count with
  | zero => exact fresh
  | succ count =>
    rw [after_succ]
    exact (pending_next_eq_none_iff (idle count)).mpr (no_failure count)

/-! ## Selection -/

/-- With other filters a schedule is built in the same window. -/
theorem exists_build_of_filters {schedule : Schedule σ} {pattern : Pattern} {year : Option Nat}
    (filters : List Filter) (compiled : options.compile = .ok (pattern, year))
    (built : (build now options resolver).1 = .ok schedule) :
    ∃ other, (build now { options with filters } resolver).1 = .ok other ∧
      other.window = schedule.window ∧ other.zone = schedule.zone ∧
        other.resolver = schedule.resolver := by
  obtain ⟨zone, start, stop, window, started, stopped, named, placed, placed_stop, made, rfl⟩ :=
    eq_ofWindow_of_build compiled built
  have same_compiled : Options.compile { options with filters } = .ok (pattern, year) := compiled
  exact ⟨_, build_eq_ok same_compiled named placed placed_stop made, rfl, rfl, rfl⟩

/-- A schedule with a selecting filter more has ahead what the filter accepts. -/
theorem ahead_of_selected {schedule selecting : Schedule σ} {pattern : Pattern}
    {year : Option Nat} (compiled : options.compile = .ok (pattern, year))
    (built : (build now options resolver).1 = .ok schedule)
    (selecting_built : (build now { options with filters := options.filters ++ [selects] }
      resolver).1 = .ok selecting)
    (same_window : selecting.window = schedule.window)
    (no_end : ∀ minute, selects minute ≠ .terminate) :
    selecting.ahead = schedule.ahead.filter fun minute => selects minute = .accept := by
  have same_compiled : Options.compile { options with filters := options.filters ++ [selects] } =
      .ok (pattern, year) := compiled
  rw [ahead_of_build compiled built, ahead_of_build same_compiled selecting_built, same_window]
  exact chosen_selected (pattern.candidates_ascending year _ _) no_end

section Part

variable {schedule selecting : Schedule σ} {keeps : WallTime → Bool}
  (same_zone : selecting.zone = schedule.zone)
  (ahead : selecting.ahead = schedule.ahead.filter keeps)
include same_zone ahead

/-- A schedule that has a part of another one's list ahead emits that part of the items first. -/
theorem filter_emittedBy_isPrefix :
    ((schedule.emittedBy offset).filter fun zoned => keeps zoned.wall) <+:
      selecting.emittedBy offset := by
  rw [emittedBy, ← Resolver.occurring_filter, emittedBy, same_zone, ahead]
  exact Resolver.occurring_isPrefix (Resolver.filter_reachable_isPrefix _ _ _ _)

/-- When the part has the occurrence that cannot be fixed, it emits nothing else and ends in the
same way. -/
theorem emittedBy_of_kept (kept : ∀ unfixable ∈
      Resolver.unfixable? offset schedule.zone schedule.ahead, keeps unfixable = true) :
    selecting.emittedBy offset =
        (schedule.emittedBy offset).filter (fun zoned => keeps zoned.wall) ∧
      selecting.impasseBy offset = schedule.impasseBy offset := by
  obtain ⟨reached, stuck⟩ := Resolver.reachable_filter kept
  constructor
  · rw [emittedBy, same_zone, ahead, reached, Resolver.occurring_filter, emittedBy]
  · rw [impasseBy, same_zone, ahead, stuck, impasseBy]

end Part

/-- **A filter that ends nothing, placed behind the other filters, selects.**  The schedule with it
emits, in the same order, exactly those items of the schedule without it that it accepts, provided
that it accepts the occurrence which some call on that schedule leaves pending, if there is one: by
the offsets it cannot be fixed, and every further call fails on it.  When the filter does not accept
it, those items still come first. -/
theorem items_of_selected {schedule : Schedule σ} (steady : resolver.Steady offset)
    (built : (build now options resolver).1 = .ok schedule)
    (no_end : ∀ minute, selects minute ≠ .terminate) :
    ∃ (selecting : Schedule σ) (items : List Zoned) (impasse : Option Failure),
      (build now { options with filters := options.filters ++ [selects] } resolver).1 =
          .ok selecting ∧
        (∀ count, schedule.nthItem count =
            (items[count]?.map .ok).or (impasse.map .error)) ∧
        (∀ count occurrence, (schedule.after count).pending = some occurrence →
          ¬ Resolver.Fixable offset schedule.zone occurrence ∧
            impasse = some (Resolver.failureOf offset schedule.zone occurrence)) ∧
          let selected := items.filter fun zoned => selects zoned.wall = .accept
          (∀ count zoned, selected[count]? = some zoned →
              selecting.nthItem count = some (.ok zoned)) ∧
            ((∀ count occurrence, (schedule.after count).pending = some occurrence →
                selects occurrence = .accept) →
              ∀ count, selecting.nthItem count =
                (selected[count]?.map .ok).or (impasse.map .error)) := by
  obtain ⟨pattern, year, window, compiled, -, parts, rule⟩ :=
    parts_of_build steady.unreliable built
  obtain ⟨selecting, selecting_built, same_window, same_zone, same_resolver⟩ :=
    exists_build_of_filters (options.filters ++ [selects]) compiled built
  have ahead := ahead_of_selected compiled built selecting_built same_window no_end
  have still_steady := steady.of_rule rule
  have item (count : Nat) : selecting.nthItem count =
      ((selecting.emittedBy offset)[count]?.map .ok).or
        ((selecting.impasseBy offset).map .error) :=
    nthItem_of_steady (by rw [same_resolver]; exact still_steady) count
  refine ⟨selecting, schedule.emittedBy offset, schedule.impasseBy offset, selecting_built,
    nthItem_of_steady still_steady, ?_, ?_, ?_⟩
  · intro count occurrence pending
    have fresh : schedule.pending = none := by rw [parts]; rfl
    obtain ⟨earlier, rfl⟩ : ∃ earlier, count = earlier + 1 := by
      refine Nat.exists_eq_succ_of_ne_zero ?_
      rintro rfl
      cases fresh.symm.trans pending
    have stuck := unfixable?_of_pending still_steady (fun _ => fresh) pending
    refine ⟨by simpa using List.find?_some stuck, ?_⟩
    rw [impasseBy, stuck]
    rfl
  · intro count zoned here
    obtain ⟨behind, whole⟩ : (schedule.emittedBy offset).filter (fun zoned =>
        selects zoned.wall = .accept) <+: selecting.emittedBy offset :=
      filter_emittedBy_isPrefix same_zone ahead
    rw [item, ← whole, List.getElem?_append_left (List.getElem?_eq_some_iff.mp here).1, here]
    rfl
  · intro kept count
    have kept_unfixable : ∀ unfixable ∈ Resolver.unfixable? offset schedule.zone schedule.ahead,
        decide (selects unfixable = .accept) = true := by
      intro unfixable stuck
      obtain ⟨calls, pending⟩ := exists_pending_of_unfixable still_steady stuck
      exact decide_eq_true (kept calls unfixable pending)
    obtain ⟨emitted, same_impasse⟩ := emittedBy_of_kept same_zone ahead kept_unfixable
    rw [item, emitted, same_impasse]

end Selection

namespace SpringForward

/-- Of the last days of March 2024 only the 30th will do. -/
def onlyThirtieth : Filter := fun minute => if minute.date.number = 19812 then .accept else .reject

theorem onlyThirtieth_ne_terminate (minute : WallTime) : onlyThirtieth minute ≠ .terminate := by
  rw [onlyThirtieth]
  split_ifs <;> rintro ⟨⟩

/-- With the filter the schedule emits its items of the 30th. -/
theorem items_of_thirtieth :
    (build (midnight ⟨0⟩) options resolver).1 = .ok schedule ∧ resolver.Steady clockOffset ∧
      (∀ minute, onlyThirtieth minute ≠ .terminate) ∧
        ∃ (selecting : Schedule Unit) (items : List Zoned),
          (build (midnight ⟨0⟩)
              { options with filters := options.filters ++ [onlyThirtieth] } resolver).1 =
              .ok selecting ∧
            (∀ count, schedule.nthItem count = items[count]?.map .ok) ∧
              ∀ count, selecting.nthItem count = (items.filter fun zoned =>
                onlyThirtieth zoned.wall = .accept)[count]?.map .ok := by
  have no_failure := no_failure_of_bounded resolver_steady build_eq_schedule clockOffset_bounded
    (by decide)
  obtain ⟨selecting, items, impasse, built, all, -, -, selected⟩ :=
    items_of_selected resolver_steady build_eq_schedule onlyThirtieth_ne_terminate
  obtain rfl : impasse = none := by
    cases impasse with
    | none => rfl
    | some failure =>
      have failed := all items.length
      rw [List.getElem?_eq_none (le_refl _)] at failed
      exact absurd failed (no_failure items.length failure)
  refine ⟨build_eq_schedule, resolver_steady, onlyThirtieth_ne_terminate, selecting, items, built,
    fun count => ?_, fun count => ?_⟩
  · rw [all, Option.map_none, Option.or_none]
  · rw [selected, Option.map_none, Option.or_none]
    intro calls occurrence pending
    cases (pending_after_of_no_failure rfl no_failure calls).symm.trans pending

end SpringForward

/-! ### New years but for the first of all

The wall clock is ahead by an hour and universal time follows on the second day, so that the
instant of the first new year cannot be shown and all later ones occur. -/

namespace FirstDay

/-- The beginning of the second day of all. -/
def secondDay : WallTime := midnight ⟨yearStart firstYear + 1⟩

/-- An hour ahead, for the wall clock at all times and for universal time from the second day on. -/
def offsetFromSecondDay (query : Query) : Offset :=
  match query.clock with
  | .wall => ⟨3600⟩
  | .utc => if secondDay ≤ query.time then ⟨3600⟩ else ⟨0⟩

def resolverFromSecondDay : Resolver Unit := .ofTables ⟨⟨3600⟩, []⟩ ⟨⟨0⟩, [(secondDay, ⟨3600⟩)]⟩

theorem resolverFromSecondDay_steady : resolverFromSecondDay.Steady offsetFromSecondDay := by
  rintro _ ⟨clock, zone, time⟩
  cases clock with
  | wall => rfl
  | utc => rfl

/-- Every reading but the first of all. -/
def notTheFirst : Filter := fun minute => if minute = first then .reject else .accept

def newYears : Schedule Unit := ofWindow options "X" pattern none window resolverFromSecondDay

def laterNewYears : Schedule Unit :=
  ofWindow { options with filters := [notTheFirst] } "X" pattern none window resolverFromSecondDay

/-- The schedule of all new years emits nothing, and with the filter it emits the second. -/
theorem second_new_year_reached :
    (build (midnight ⟨0⟩) options resolverFromSecondDay).1 = .ok newYears ∧
      (build (midnight ⟨0⟩) { options with filters := options.filters ++ [notTheFirst] }
          resolverFromSecondDay).1 = .ok laterNewYears ∧
        resolverFromSecondDay.Steady offsetFromSecondDay ∧
          (∀ minute, notTheFirst minute ≠ .terminate) ∧
            (∀ count zoned, newYears.nthItem count ≠ some (.ok zoned)) ∧
              laterNewYears.nthItem 0 =
                some (.ok ⟨midnight (Date.ofYear (firstYear + 1)), ⟨3600⟩⟩) := by
  have compiled : options.compile = .ok (pattern, none) := by rfl
  have same_compiled : Options.compile { options with
      filters := options.filters ++ [notTheFirst] } = .ok (pattern, none) := compiled
  refine ⟨?_, ?_, resolverFromSecondDay_steady, fun minute => ?_, fun count zoned => ?_,
    by decide +kernel⟩
  · simp only [build, compiled]
    rfl
  · simp only [build, same_compiled]
    rfl
  · rw [notTheFirst]
    split_ifs <;> rintro ⟨⟩
  · obtain ⟨others, ahead⟩ : ∃ others, newYears.ahead = first :: others :=
      Search.exists_accepted_eq_cons (by decide +kernel)
    have failed : Resolver.fixedBy offsetFromSecondDay "X" first =
        .error (.fault (.resolution "X" (.unrepresentable first ⟨3600⟩))) := by rfl
    rw [nthItem_of_stuck resolverFromSecondDay_steady ahead failed]
    rintro ⟨⟩

end FirstDay

end Schedule

end Timetable
