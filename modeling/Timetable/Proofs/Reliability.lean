import Mathlib.Data.ENat.Basic
import Timetable.Proofs.Ahead

/-!
# Reliable and unreliable resolvers

A resolver is steady when it never fails and answers by the query alone, whatever
it may remember.  An unreliable one answers by the same offsets, but may report a
fault instead, in any pattern; a number, which may be infinite, bounds the faults
that are still to come.  A steady resolver is one that has no faults to come.

What comes of fixing an occurrence, and of drawing from a list, is known from the
offsets alone (`fixedBy`, `drawBy`).  With an unreliable resolver it is the same or
else a fault, and a fault leaves the draw that it prevented still to be made
(`Resolver.Unreliable.draw`).
-/

namespace Timetable

open Calendar WallTime

set_option autoImplicit false

namespace Resolver

variable {σ : Type} {offset : Query → Offset} {faults : σ → ℕ∞} {resolver : Resolver σ}

/-- A resolver that answers every query with an offset that the query alone decides. -/
def Steady (offset : Query → Offset) (resolver : Resolver σ) : Prop :=
  ∀ state query, (resolver.answer state query).1 = .ok (offset query)

/-- The resolver that has nothing but offsets. -/
def ofOffsets (offset : Query → Offset) : Resolver Unit :=
  ofFunction fun query => .ok (offset query)

theorem ofOffsets_steady (offset : Query → Offset) : (ofOffsets offset).Steady offset :=
  fun _ _ => rfl

/-! ## Lookups that may fail -/

/-- The result of lookups is the one expected, or else a fault was met, and the faults to come are
fewer by those that were met. -/
structure Answered {ε α : Type} (faults : σ → ℕ∞) (expected : Except ε α)
    (resolver : Resolver σ) (result : Except ε α × Resolver σ) : Prop where
  /-- The resolver goes on answering by the same rule. -/
  rule : result.2.answer = resolver.answer
  outcome : result.1 = expected ∧ faults result.2.state ≤ faults resolver.state ∨
    (∃ met, result.1 = .error met) ∧ faults result.2.state + 1 ≤ faults resolver.state

/-- A resolver that answers with offsets that the query alone decides, unless it reports a fault. -/
def Unreliable (offset : Query → Offset) (faults : σ → ℕ∞) (resolver : Resolver σ) : Prop :=
  ∀ state query, Answered faults (.ok (offset query)) { resolver with state }
    (ask { resolver with state } query)

theorem Steady.unreliable (steady : resolver.Steady offset) :
    resolver.Unreliable offset fun _ => 0 :=
  fun state query => ⟨rfl, .inl ⟨steady state query, le_refl 0⟩⟩

theorem Unreliable.steady (unreliable : resolver.Unreliable offset fun _ => 0) :
    resolver.Steady offset := by
  intro state query
  obtain ⟨-, ⟨same, -⟩ | ⟨-, none_left⟩⟩ := unreliable state query
  · exact same
  · simp at none_left

theorem Steady.of_rule {later : Resolver σ} (steady : resolver.Steady offset)
    (rule : later.answer = resolver.answer) : later.Steady offset := by
  rw [Steady, rule]
  exact steady

theorem Unreliable.of_rule {later : Resolver σ} (unreliable : resolver.Unreliable offset faults)
    (rule : later.answer = resolver.answer) : later.Unreliable offset faults := by
  obtain ⟨state, answer⟩ := later
  cases rule
  exact unreliable

theorem Unreliable.ask (unreliable : resolver.Unreliable offset faults) (query : Query) :
    Answered faults (.ok (offset query)) resolver (resolver.ask query) :=
  unreliable resolver.state query

/-- Lookups that go on from a result, and stop at a fault. -/
theorem Answered.trans {δ ε α β : Type} {expected : Except δ α} {later : Resolver σ}
    {reply : Except δ α} (answered : Answered faults expected resolver (reply, later))
    {final : Except ε β} {result : Except ε β × Resolver σ}
    (proceeds : reply = expected → Answered faults final later result)
    (stops : ∀ met, reply = .error met →
      result.2 = later ∧ ∃ reported, result.1 = .error reported) :
    Answered faults final resolver result := by
  obtain ⟨rule, ⟨same, fewer⟩ | ⟨⟨met, failed⟩, fewer⟩⟩ := answered
  · obtain ⟨later_rule, outcome⟩ := proceeds same
    refine ⟨later_rule.trans rule, outcome.imp ?_ ?_⟩
    · rintro ⟨here, still_fewer⟩
      exact ⟨here, still_fewer.trans fewer⟩
    · rintro ⟨failed, still_fewer⟩
      exact ⟨failed, still_fewer.trans fewer⟩
  · obtain ⟨rfl, reported⟩ := stops met failed
    exact ⟨rule, .inr ⟨reported, fewer⟩⟩

theorem Answered.refl {ε α : Type} {expected : Except ε α} :
    Answered faults expected resolver (expected, resolver) := ⟨.refl _, .inl ⟨.refl _, le_refl _⟩⟩

/-- An instant is placed on the wall clock by its offset. -/
theorem Unreliable.wallAt (unreliable : resolver.Unreliable offset faults) (zone : String)
    (utc : WallTime) :
    Answered faults (readingAt utc (offset { clock := .utc, zone, time := utc })) resolver
      (resolver.wallAt zone utc) := by
  have asked := unreliable.ask { clock := .utc, zone, time := utc }
  rw [Resolver.wallAt]
  cases answer : resolver.ask { clock := .utc, zone, time := utc } with
  | mk reply later =>
    rw [answer] at asked
    refine asked.trans ?_ ?_
    · rintro rfl
      exact .refl
    · rintro fault rfl
      exact ⟨rfl, .fault fault, rfl⟩

/-! ## Fixing an occurrence -/

/-- The reading of an occurrence with the offset that is given for it. -/
def zonedBy (offset : Query → Offset) (zone : String) (occurrence : WallTime) : Zoned where
  wall := occurrence
  offset := offset { clock := .wall, zone, time := occurrence }

/-- What comes of fixing an occurrence by given offsets. -/
def fixedBy (offset : Query → Offset) (zone : String) (occurrence : WallTime) :
    Except Failure (Option Zoned) :=
  let zoned := zonedBy offset zone occurrence
  if zoned.utc.InRange then
    let shown := zoned.utc.onWall (offset { clock := .utc, zone, time := zoned.utc })
    if shown.InRange then .ok (if shown = occurrence then some zoned else none)
    else .error .overrun
  else .error (.fault (.resolution zone (.unrepresentable occurrence zoned.offset)))

/-- By given offsets a clock can show the instant of an occurrence, and a clock can show what the
wall clock shows then. -/
def Fixable (offset : Query → Offset) (zone : String) (occurrence : WallTime) : Prop :=
  let utc := (zonedBy offset zone occurrence).utc
  utc.InRange ∧ (utc.onWall (offset { clock := .utc, zone, time := utc })).InRange

instance (offset : Query → Offset) (zone : String) (occurrence : WallTime) :
    Decidable (Fixable offset zone occurrence) := inferInstanceAs (Decidable (_ ∧ _))

theorem Unreliable.fix (unreliable : resolver.Unreliable offset faults) (zone : String)
    (occurrence : WallTime) :
    Answered faults (zonedAt zone occurrence (zonedBy offset zone occurrence).offset) resolver
      (resolver.fix zone occurrence) := by
  have asked := unreliable.ask { clock := .wall, zone, time := occurrence }
  rw [Resolver.fix]
  cases answer : resolver.ask { clock := .wall, zone, time := occurrence } with
  | mk reply later =>
    rw [answer] at asked
    refine asked.trans ?_ ?_
    · rintro rfl
      exact .refl
    · rintro fault rfl
      exact ⟨rfl, _, rfl⟩

/-- **An occurrence is fixed by the offsets given for it, or else a fault is met.** -/
theorem Unreliable.fixExisting (unreliable : resolver.Unreliable offset faults) (zone : String)
    (occurrence : WallTime) :
    Answered faults (fixedBy offset zone occurrence) resolver
      (resolver.fixExisting zone occurrence) := by
  have fixing := unreliable.fix zone occurrence
  rw [Resolver.fixExisting, fixedBy]
  cases answer : resolver.fix zone occurrence with
  | mk reply fixed =>
    rw [answer] at fixing
    refine fixing.trans ?_ ?_
    · intro same
      by_cases shown : (zonedBy offset zone occurrence).utc.InRange
      · obtain rfl : reply = .ok (zonedBy offset zone occurrence) := same.trans (if_pos shown)
        have looking :=
          (unreliable.of_rule fixing.rule).wallAt zone (zonedBy offset zone occurrence).utc
        rw [if_pos shown]
        cases look : fixed.wallAt zone (zonedBy offset zone occurrence).utc with
        | mk reply later =>
          rw [look] at looking
          simp only [look]
          refine looking.trans ?_ ?_
          · rintro rfl
            by_cases in_range : ((zonedBy offset zone occurrence).utc.onWall (offset
                { clock := .utc, zone, time := (zonedBy offset zone occurrence).utc })).InRange
            · rw [if_pos in_range, readingAt_of_inRange in_range]
              exact .refl
            · rw [if_neg in_range, readingAt_of_not_inRange in_range]
              exact .refl
          · rintro failure rfl
            exact ⟨rfl, _, rfl⟩
      · obtain rfl := same.trans (if_neg shown)
        rw [if_neg shown]
        exact .refl
    · rintro fault rfl
      exact ⟨rfl, .fault fault, rfl⟩

theorem fixExisting_ofOffsets (offset : Query → Offset) (zone : String) (occurrence : WallTime) :
    ((ofOffsets offset).fixExisting zone occurrence).1 = fixedBy offset zone occurrence := by
  rcases ((ofOffsets_steady offset).unreliable.fixExisting zone occurrence).outcome with
    ⟨same, -⟩ | ⟨-, none_left⟩
  · exact same
  · simp at none_left

/-- An occurrence that can be fixed is fixed with its offset, or else the wall clock never shows
it. -/
theorem Fixable.fixedBy {zone : String} {occurrence : WallTime}
    (fixable : Fixable offset zone occurrence) :
    fixedBy offset zone occurrence = .ok none ∨
      fixedBy offset zone occurrence = .ok (some (zonedBy offset zone occurrence)) := by
  simp only [Resolver.fixedBy, if_pos fixable.1, if_pos fixable.2]
  split_ifs
  · exact .inr rfl
  · exact .inl rfl

/-! ## Drawing -/

/-- The next item of a list of occurrences by given offsets, and the occurrences left ahead. -/
def drawBy (offset : Query → Offset) (zone : String) :
    List WallTime → Option Schedule.Item × List WallTime
  | [] => (none, [])
  | occurrence :: later =>
    match fixedBy offset zone occurrence with
    | .ok (some zoned) => (some (.ok zoned), later)
    | .ok none => drawBy offset zone later
    | .error failure => (some (.error failure), occurrence :: later)

/-- **An unreliable resolver draws what the offsets give, or else reports a fault and leaves that
draw still to be made.** -/
theorem Unreliable.draw (unreliable : resolver.Unreliable offset faults) (zone : String)
    (occurrences : List WallTime) :
    ∃ (item : Option Schedule.Item) (left : List WallTime) (later : Resolver σ),
      resolver.draw zone occurrences = (item, left, later) ∧ later.answer = resolver.answer ∧
        left <:+ occurrences ∧
          (drawBy offset zone occurrences = (item, left) ∧
              faults later.state ≤ faults resolver.state ∨
            (∃ failure, item = some (.error failure)) ∧
              drawBy offset zone left = drawBy offset zone occurrences ∧
                faults later.state + 1 ≤ faults resolver.state) := by
  induction occurrences generalizing resolver with
  | nil => exact ⟨none, [], resolver, rfl, rfl, List.suffix_refl _, .inl ⟨rfl, le_refl _⟩⟩
  | cons occurrence others ih =>
    have fixing := unreliable.fixExisting zone occurrence
    rw [Resolver.draw]
    cases answer : resolver.fixExisting zone occurrence with
    | mk reply fixed =>
      rw [answer] at fixing
      obtain ⟨rule, ⟨same, fewer⟩ | ⟨⟨failure, failed⟩, fewer⟩⟩ := fixing
      · change reply = fixedBy offset zone occurrence at same
        rw [drawBy, ← same]
        rcases reply with failure | (_ | zoned)
        · exact ⟨_, _, fixed, rfl, rule, List.suffix_refl _, .inl ⟨rfl, fewer⟩⟩
        · obtain ⟨item, left, later, drawn, later_rule, suffix, outcome⟩ :=
            ih (unreliable.of_rule rule)
          refine ⟨item, left, later, drawn, later_rule.trans rule,
            suffix.trans (List.suffix_cons _ _), outcome.imp ?_ ?_⟩
          · rintro ⟨here, still_fewer⟩
            exact ⟨here, still_fewer.trans fewer⟩
          · rintro ⟨failed, undone, still_fewer⟩
            exact ⟨failed, undone, still_fewer.trans fewer⟩
        · exact ⟨_, _, fixed, rfl, rule, List.suffix_cons _ _, .inl ⟨rfl, fewer⟩⟩
      · cases failed
        exact ⟨_, _, fixed, rfl, rule, List.suffix_refl _, .inr ⟨⟨failure, rfl⟩, rfl, fewer⟩⟩

/-- The occurrences of a list that the wall clock of a zone shows, each with its offset. -/
def occurring (offset : Query → Offset) (zone : String) (occurrences : List WallTime) :
    List Zoned :=
  (occurrences.filter fun occurrence =>
    ((ofOffsets offset).fixExisting zone occurrence).1 ≠ .ok none).map (zonedBy offset zone)

/-- **As long as they can be fixed, the occurrences that the wall clock shows are drawn**, the first
of them now and the others later. -/
theorem drawBy_of_fixable {zone : String} {occurrences : List WallTime}
    (fixable : ∀ occurrence ∈ occurrences, Fixable offset zone occurrence) :
    (drawBy offset zone occurrences).1 = (occurring offset zone occurrences).head?.map .ok ∧
      (drawBy offset zone occurrences).2 ⊆ occurrences ∧
        occurring offset zone (drawBy offset zone occurrences).2 =
          (occurring offset zone occurrences).tail := by
  induction occurrences with
  | nil => exact ⟨rfl, List.Subset.refl _, rfl⟩
  | cons occurrence others ih =>
    obtain ⟨here, others_fixable⟩ := List.forall_mem_cons.mp fixable
    rw [drawBy]
    rcases here.fixedBy with missing | existing
    · have dropped : occurring offset zone (occurrence :: others) =
          occurring offset zone others := by
        rw [occurring, List.filter_cons_of_neg (by simp [fixExisting_ofOffsets, missing]),
          occurring]
      obtain ⟨first, subset, rest⟩ := ih others_fixable
      rw [missing, dropped]
      exact ⟨first, List.subset_cons_of_subset _ subset, rest⟩
    · have emitted : occurring offset zone (occurrence :: others) =
          zonedBy offset zone occurrence :: occurring offset zone others := by
        rw [occurring, List.filter_cons_of_pos (by simp [fixExisting_ofOffsets, existing]),
          List.map_cons, occurring]
      rw [existing, emitted]
      exact ⟨rfl, List.subset_cons_self _ _, rfl⟩

end Resolver

namespace Schedule

variable {σ : Type} {offset : Query → Offset} {faults : σ → ℕ∞} {resolver : Resolver σ}

/-! ## The next item -/

/-- A call on a schedule with an unreliable resolver draws what the offsets give, or else meets a
fault and leaves that draw still to be made. -/
theorem next_of_unreliable {schedule : Schedule σ}
    (unreliable : schedule.resolver.Unreliable offset faults) :
    schedule.next.2.resolver.Unreliable offset faults ∧ schedule.next.2.zone = schedule.zone ∧
      schedule.next.2.ahead <:+ schedule.ahead ∧
        (Resolver.drawBy offset schedule.zone schedule.ahead =
              (schedule.next.1, schedule.next.2.ahead) ∧
            faults schedule.next.2.resolver.state ≤ faults schedule.resolver.state ∨
          (∃ failure, schedule.next.1 = some (.error failure)) ∧
            Resolver.drawBy offset schedule.zone schedule.next.2.ahead =
                Resolver.drawBy offset schedule.zone schedule.ahead ∧
              faults schedule.next.2.resolver.state + 1 ≤ faults schedule.resolver.state) := by
  obtain ⟨item, left, later, drawn, rule, suffix, outcome⟩ :=
    unreliable.draw schedule.zone schedule.ahead
  obtain ⟨draw, zone, -⟩ := schedule.next_eq_draw
  rw [drawn] at draw
  obtain ⟨same_item, behind⟩ := Prod.mk.inj draw
  obtain ⟨same_left, same_resolver⟩ := Prod.mk.inj behind
  rw [same_item, same_left, same_resolver]
  exact ⟨unreliable.of_rule rule, zone, suffix, outcome⟩

/-- A call on a schedule with a steady resolver draws what the offsets give. -/
theorem next_of_steady {schedule : Schedule σ} (steady : schedule.resolver.Steady offset) :
    schedule.next.2.resolver.Steady offset ∧ schedule.next.2.zone = schedule.zone ∧
      Resolver.drawBy offset schedule.zone schedule.ahead =
        (schedule.next.1, schedule.next.2.ahead) := by
  obtain ⟨later, zone, -, ⟨drawn, -⟩ | ⟨-, -, none_left⟩⟩ := next_of_unreliable steady.unreliable
  · exact ⟨later.steady, zone, drawn⟩
  · simp at none_left

/-! ## The ends of a window -/

theorem Options.zone_of_zoneName {options : Options} {zone : String}
    (named : options.zoneName = .ok zone) : zone = options.zone.getD defaultZone := by
  rw [zoneName] at named
  split at named
  · rename_i given given_zone
    rw [given_zone]
    exact (Except.ok.inj named).symm
  · rename_i none_given
    split_ifs at named
    rw [none_given]
    exact (Except.ok.inj named).symm

/-- What the wall clock of a zone shows at an instant, by given offsets. -/
def placedBy (offset : Query → Offset) (zone : String) (utc : WallTime) : WallTime :=
  utc.onWall (offset { clock := .utc, zone, time := utc })

theorem eq_of_wallAt {later : Resolver σ} {zone : String} {utc wall : WallTime}
    (unreliable : resolver.Unreliable offset faults)
    (placed : resolver.wallAt zone utc = (.ok wall, later)) :
    wall = placedBy offset zone utc ∧ later.answer = resolver.answer := by
  have looking := unreliable.wallAt zone utc
  rw [placed] at looking
  obtain ⟨rule, ⟨same, -⟩ | ⟨⟨failure, failed⟩, -⟩⟩ := looking
  · change .ok wall = Resolver.readingAt utc _ at same
    rw [Resolver.readingAt] at same
    split_ifs at same
    · exact ⟨Except.ok.inj same, rule⟩
  · cases failed

theorem eq_of_placeGiven {later : Resolver σ} {zone : String} {utc wall : WallTime}
    (unreliable : resolver.Unreliable offset faults)
    (placed : placeGiven resolver zone utc = (.ok wall, later)) :
    wall = placedBy offset zone utc ∧ later.answer = resolver.answer := by
  rw [placeGiven] at placed
  split at placed
  · rename_i shown asked looking
    cases placed
    exact eq_of_wallAt unreliable looking
  · cases placed

/-- A start that was placed is where its offset puts it. -/
theorem eq_of_placeStart {later : Resolver σ} {zone : String} {now wall : WallTime}
    {start : Option WallTime} (unreliable : resolver.Unreliable offset faults)
    (placed : placeStart resolver zone now start = (.ok wall, later)) :
    wall = placedBy offset zone (start.getD now) ∧ later.answer = resolver.answer := by
  cases start with
  | some utc => exact eq_of_placeGiven unreliable placed
  | none =>
    rw [placeStart] at placed
    split at placed
    · rename_i shown asked looking
      cases placed
      exact eq_of_wallAt unreliable looking
    · cases placed

/-- A stop that was placed is where its offset puts it. -/
theorem eq_of_placeStop {later : Resolver σ} {zone : String} {stop wall : Option WallTime}
    (unreliable : resolver.Unreliable offset faults)
    (placed : placeStop resolver zone stop = (.ok wall, later)) :
    wall = stop.map (placedBy offset zone) ∧ later.answer = resolver.answer := by
  cases stop with
  | none =>
    cases placed
    exact ⟨rfl, rfl⟩
  | some utc =>
    rw [placeStop] at placed
    split at placed
    · rename_i shown asked looking
      cases placed
      obtain ⟨rfl, rule⟩ := eq_of_placeGiven unreliable looking
      exact ⟨rfl, rule⟩
    · cases placed

/-- **A schedule that was built is the same with any resolver of the same offsets**, but for the
resolver itself. -/
theorem parts_of_build {now : WallTime} {options : Options} {schedule : Schedule σ}
    (unreliable : resolver.Unreliable offset faults)
    (built : (build now options resolver).1 = .ok schedule) :
    ∃ pattern year window, options.compile = .ok (pattern, year) ∧
      Window.make (placedBy offset (options.zone.getD defaultZone) (options.start.getD now))
          (options.stop.map (placedBy offset (options.zone.getD defaultZone))) = .ok window ∧
        schedule = ofWindow options (options.zone.getD defaultZone) pattern year window
          schedule.resolver ∧
          schedule.resolver.answer = resolver.answer := by
  cases compiled : options.compile with
  | error fault =>
    rw [build, compiled] at built
    cases built
  | ok compilation =>
    obtain ⟨pattern, year⟩ := compilation
    obtain ⟨zone, start, stop, window, started, stopped, named, start_placed, stop_placed, made,
      rfl⟩ := eq_ofWindow_of_build compiled built
    obtain rfl := Options.zone_of_zoneName named
    obtain ⟨rfl, start_rule⟩ := eq_of_placeStart unreliable start_placed
    obtain ⟨rfl, stop_rule⟩ := eq_of_placeStop (unreliable.of_rule start_rule) stop_placed
    exact ⟨pattern, year, window, rfl, made, rfl, stop_rule.trans start_rule⟩

end Schedule

end Timetable
