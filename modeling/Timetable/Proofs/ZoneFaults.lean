import Timetable.Proofs.Retries
import Timetable.Proofs.WindowOrder

/-!
# Faults of the zone when a schedule is built

`build` fails at the first step that does: when the expression is compiled, when the zone is
named, at the lookup for the start, at that for the stop, or when the window is made
(`Schedule.Refusal`, `Schedule.build_eq_error_iff`).

A zone that nobody knows counts as missing where a given instant cannot be placed in it, and
as a failure to resolve it where that is the current instant
(`Schedule.build_of_zone_unknown`).  The current instant is placed before a stop.  So with a
stop and no start an unknown zone is not reported as missing
(`Schedule.Atlantis.stop_alone_is_a_resolution`), although a stop demands a zone just as a
start does.
-/

namespace Timetable

open WallTime

set_option autoImplicit false

theorem Fault.asResolution_ne_zoneUnknown (zone name : String) (fault : Fault) :
    fault.asResolution zone ≠ .zoneUnknown name := by
  obtain ⟨failed, obstacle, resolution⟩ := fault.exists_asResolution_eq zone
  rw [resolution]
  rintro ⟨⟩

/-- A failure is not put into words that are never chosen. -/
theorem Failure.reword_ne_fault {words : Fault → Fault} {fault : Fault}
    (never : ∀ met, words met ≠ fault) (failure : Failure) :
    failure.reword words ≠ .fault fault := by
  cases failure with
  | fault met => exact fun same => never met (Failure.fault.inj same)
  | overrun => nofun

/-- A window is refused for nothing but its order. -/
theorem Window.exists_eq_of_make_error {start : WallTime} {stop : Option WallTime} {fault : Fault}
    (refused : Window.make start stop = .error fault) : ∃ last, fault = .window start last := by
  cases stop with
  | none => cases refused
  | some last =>
    by_cases order : start ≤ last
    · rw [Window.make, dif_pos order] at refused
      cases refused
    · rw [Window.make, dif_neg order] at refused
      cases refused
      exact ⟨last, rfl⟩

namespace Schedule

variable {σ : Type} {now : WallTime} {options : Options} {resolver started later : Resolver σ}
  {pattern : Pattern} {zone name : String} {offset : Offset} {fault : Fault} {failure : Failure}

/-! ## Where building a schedule fails -/

/-- The step at which `build` fails, with its failure and the resolver after the lookups. -/
inductive Refusal (now : WallTime) (options : Options) (resolver : Resolver σ) :
    Failure → Resolver σ → Prop where
  /-- The expression does not compile. -/
  | expression {fault : Fault} (refused : options.compile = .error fault) :
      Refusal now options resolver (.fault fault) resolver
  /-- There is no zone. -/
  | zone {fault : Fault} {compiled : Pattern × Option Nat}
      (compiles : options.compile = .ok compiled) (refused : options.zoneName = .error fault) :
      Refusal now options resolver (.fault fault) resolver
  /-- The start cannot be placed. -/
  | start {failure : Failure} {compiled : Pattern × Option Nat} {zone : String}
      {later : Resolver σ}
      (compiles : options.compile = .ok compiled) (named : options.zoneName = .ok zone)
      (refused : placeStart resolver zone now options.start = (.error failure, later)) :
      Refusal now options resolver failure later
  /-- The stop cannot be placed. -/
  | stop {failure : Failure} {compiled : Pattern × Option Nat} {zone : String}
      {start : WallTime} {started later : Resolver σ}
      (compiles : options.compile = .ok compiled) (named : options.zoneName = .ok zone)
      (placed : placeStart resolver zone now options.start = (.ok start, started))
      (refused : placeStop started zone options.stop = (.error failure, later)) :
      Refusal now options resolver failure later
  /-- There is no window between the two. -/
  | window {fault : Fault} {compiled : Pattern × Option Nat} {zone : String} {start : WallTime}
      {stop : Option WallTime} {started later : Resolver σ}
      (compiles : options.compile = .ok compiled) (named : options.zoneName = .ok zone)
      (placed : placeStart resolver zone now options.start = (.ok start, started))
      (placed_stop : placeStop started zone options.stop = (.ok stop, later))
      (refused : Window.make start stop = .error fault) :
      Refusal now options resolver (.fault fault) later

/-- **No schedule is built when one of the steps fails**, and the failure is that of the step. -/
theorem build_eq_error_iff :
    build now options resolver = (.error failure, later) ↔
      Refusal now options resolver failure later := by
  constructor
  · intro failed
    simp only [build] at failed
    split at failed
    · rename_i refused
      cases failed
      exact .expression refused
    · rename_i pattern year compiles
      split at failed
      · rename_i refused
        cases failed
        exact .zone compiles refused
      · rename_i zone named
        split at failed
        · rename_i refused
          cases failed
          exact .start compiles named refused
        · rename_i start started placed
          split at failed
          · rename_i refused
            cases failed
            exact .stop compiles named placed refused
          · rename_i stop stopped placed_stop
            split at failed
            · rename_i refused
              cases failed
              exact .window compiles named placed placed_stop refused
            · cases failed
  · intro refusal
    cases refusal with
    | expression refused => simp only [build, refused]
    | zone compiles refused => simp only [build, compiles, refused]
    | start compiles named refused => simp only [build, compiles, named, refused]
    | stop compiles named placed refused => simp only [build, compiles, named, placed, refused]
    | window compiles named placed placed_stop refused =>
      simp only [build, compiles, named, placed, placed_stop, refused]

/-! ## No step reports a zone that is not known -/

theorem asMissing_ne_zoneUnknown (name : String) (fault : Fault) :
    asMissing fault ≠ .zoneUnknown name := by
  cases fault <;> rintro ⟨⟩

/-- An instant that was given is never refused for a zone that is not known. -/
theorem placeGiven_ne_zoneUnknown (resolver : Resolver σ) (zone name : String) (utc : WallTime) :
    (placeGiven resolver zone utc).1 ≠ .error (.fault (.zoneUnknown name)) := by
  rw [placeGiven]
  split
  · rintro ⟨⟩
  · rename_i reported later looked
    intro unknown
    exact reported.reword_ne_fault (asMissing_ne_zoneUnknown name) (Except.error.inj unknown)

theorem placeStart_ne_zoneUnknown (resolver : Resolver σ) (zone name : String) (now : WallTime)
    (start : Option WallTime) :
    (placeStart resolver zone now start).1 ≠ .error (.fault (.zoneUnknown name)) := by
  cases start with
  | some utc => exact placeGiven_ne_zoneUnknown resolver zone name utc
  | none =>
    rw [placeStart]
    split
    · rintro ⟨⟩
    · rename_i reported later looked
      intro unknown
      exact reported.reword_ne_fault (Fault.asResolution_ne_zoneUnknown zone name)
        (Except.error.inj unknown)

theorem placeStop_ne_zoneUnknown (resolver : Resolver σ) (zone name : String)
    (stop : Option WallTime) :
    (placeStop resolver zone stop).1 ≠ .error (.fault (.zoneUnknown name)) := by
  cases stop with
  | none => rintro ⟨⟩
  | some utc =>
    have given := placeGiven_ne_zoneUnknown resolver zone name utc
    rw [placeStop]
    split
    · rintro ⟨⟩
    · rename_i reported later placed
      rw [placed] at given
      intro unknown
      exact given (congrArg Except.error (Except.error.inj unknown))

/-- Options that do not compile have a defect. -/
theorem Options.exists_defect_of_compile (refused : options.compile = .error fault) :
    ∃ defect, fault = .expression defect := by
  rw [Options.compile, Except.mapError.eq_def] at refused
  split at refused
  · cases refused
    exact ⟨_, rfl⟩
  · cases refused

theorem Options.zoneName_eq_error (refused : options.zoneName = .error fault) :
    fault = .zoneMissing .notGiven := by
  rw [Options.zoneName] at refused
  split at refused
  · cases refused
  · split at refused
    · cases refused
      rfl
    · cases refused

/-- **No refusal is that of a zone that is not known.** -/
theorem Refusal.ne_zoneUnknown (refusal : Refusal now options resolver failure later) :
    failure ≠ .fault (.zoneUnknown name) := by
  rintro rfl
  cases refusal with
  | expression refused =>
    obtain ⟨defect, ⟨⟩⟩ := Options.exists_defect_of_compile refused
  | zone compiles refused => cases Options.zoneName_eq_error refused
  | start compiles named refused =>
    exact placeStart_ne_zoneUnknown resolver _ name now _ (congrArg Prod.fst refused)
  | stop compiles named placed refused =>
    exact placeStop_ne_zoneUnknown _ _ name _ (congrArg Prod.fst refused)
  | window compiles named placed placed_stop refused =>
    obtain ⟨last, ⟨⟩⟩ := Window.exists_eq_of_make_error refused

/-! ## The lookups -/

/-- A defect of the expression is a defect of the options. -/
theorem Options.compile_eq_error {defect : Defect}
    (defective : Pattern.compile options.expression = .error defect) :
    options.compile = .error (.expression defect) := by
  rw [Options.compile, defective]
  rfl

theorem placeStart_of_unknown {start : Option WallTime}
    (unknown : resolver.ask { clock := .utc, zone, time := start.getD now } =
      (.error (.zoneUnknown name), later)) :
    placeStart resolver zone now start =
      (.error (.fault (if start.isSome then .zoneMissing (.unknown name)
        else .resolution zone (.reported (Fault.zoneUnknown name).message))), later) := by
  cases start with
  | some utc =>
    rw [Option.getD_some] at unknown
    simp only [placeStart, placeGiven, Resolver.wallAt, unknown, Failure.reword_fault, asMissing,
      Option.isSome_some, if_true]
  | none =>
    rw [Option.getD_none] at unknown
    simp only [placeStart, Resolver.wallAt, unknown, Failure.reword_fault, Fault.asResolution,
      Option.isSome_none, Bool.false_eq_true, if_false]

theorem placeStart_of_known {start : Option WallTime}
    (known : resolver.ask { clock := .utc, zone, time := start.getD now } = (.ok offset, later))
    (shown : ((start.getD now).onWall offset).InRange) :
    placeStart resolver zone now start = (.ok ((start.getD now).onWall offset), later) := by
  cases start with
  | some utc =>
    rw [Option.getD_some] at known shown
    simp only [placeStart, placeGiven, Resolver.wallAt, known,
      Resolver.readingAt_of_inRange shown, Option.getD_some]
  | none =>
    rw [Option.getD_none] at known shown
    simp only [placeStart, Resolver.wallAt, known, Resolver.readingAt_of_inRange shown,
      Option.getD_none]

theorem placeStop_of_unknown {stop : WallTime}
    (unknown : resolver.ask { clock := .utc, zone, time := stop } =
      (.error (.zoneUnknown name), later)) :
    placeStop resolver zone (some stop) =
      (.error (.fault (.zoneMissing (.unknown name))), later) := by
  simp only [placeStop, placeGiven, Resolver.wallAt, unknown, Failure.reword_fault, asMissing]

/-! ## Faults of the zone -/

/-- Without a zone neither a start nor a stop is looked up. -/
theorem build_of_no_zone (compiled : Pattern.compile options.expression = .ok pattern)
    (zone_missing : options.zone = none) (bounded : options.start.isSome ∨ options.stop.isSome) :
    build now options resolver = (.error (.fault (.zoneMissing .notGiven)), resolver) := by
  obtain ⟨year, compiles⟩ := Options.exists_compile_eq_ok compiled
  have refused : options.zoneName = .error (.zoneMissing .notGiven) := by
    have demanded : (options.start.isSome || options.stop.isSome) = true := by simpa using bounded
    simp only [Options.zoneName, zone_missing, demanded, if_true]
  exact build_eq_error_iff.mpr (.zone compiles refused)

/-- When the first lookup finds no such zone, the zone is missing if that lookup was for a start
that was given, and cannot be resolved if it was for the current instant. -/
theorem build_of_zone_unknown (compiled : Pattern.compile options.expression = .ok pattern)
    (zone_given : options.zone = some zone)
    (unknown : resolver.ask { clock := .utc, zone, time := options.start.getD now } =
      (.error (.zoneUnknown name), later)) :
    build now options resolver =
      (.error (.fault (if options.start.isSome then .zoneMissing (.unknown name)
        else .resolution zone (.reported (Fault.zoneUnknown name).message))), later) := by
  obtain ⟨year, compiles⟩ := Options.exists_compile_eq_ok compiled
  have named : options.zoneName = .ok zone := by simp only [Options.zoneName, zone_given]
  exact build_eq_error_iff.mpr (.start compiles named (placeStart_of_unknown unknown))

/-- When the start is placed and only the lookup for the stop finds no such zone, the zone is
missing. -/
theorem build_of_stop_unknown {stop : WallTime}
    (compiled : Pattern.compile options.expression = .ok pattern)
    (zone_given : options.zone = some zone) (stop_given : options.stop = some stop)
    (known : resolver.ask { clock := .utc, zone, time := options.start.getD now } =
      (.ok offset, started))
    (shown : ((options.start.getD now).onWall offset).InRange)
    (unknown : started.ask { clock := .utc, zone, time := stop } =
      (.error (.zoneUnknown name), later)) :
    build now options resolver = (.error (.fault (.zoneMissing (.unknown name))), later) := by
  obtain ⟨year, compiles⟩ := Options.exists_compile_eq_ok compiled
  have named : options.zoneName = .ok zone := by simp only [Options.zoneName, zone_given]
  have refused := placeStop_of_unknown unknown
  rw [← stop_given] at refused
  exact build_eq_error_iff.mpr (.stop compiles named (placeStart_of_known known shown) refused)

/-- **How a missing and an unknown zone are reported.**  A defect of the expression comes before
both.  A start or a stop without a zone is refused before anything is looked up.  A zone that the
resolver does not know is missing when the lookup was for an instant that was given, and cannot be
resolved when it was for the current one, which is looked up in place of a start.  The stop comes
to be looked up when a clock can show the reading at the start.  No schedule is ever refused as one
whose zone is not known. -/
theorem build_zone_faults (now : WallTime) (options : Options) (resolver : Resolver σ) :
    (∀ defect, Pattern.compile options.expression = .error defect →
        build now options resolver = (.error (.fault (.expression defect)), resolver)) ∧
      (∀ pattern, Pattern.compile options.expression = .ok pattern →
        (options.zone = none → options.start.isSome ∨ options.stop.isSome →
            build now options resolver = (.error (.fault (.zoneMissing .notGiven)), resolver)) ∧
          (∀ zone name later, options.zone = some zone →
            resolver.ask { clock := .utc, zone, time := options.start.getD now } =
                (.error (.zoneUnknown name), later) →
              build now options resolver =
                (.error (.fault (if options.start.isSome then .zoneMissing (.unknown name)
                  else .resolution zone (.reported (Fault.zoneUnknown name).message))), later)) ∧
            ∀ zone name stop offset started later, options.zone = some zone →
              options.stop = some stop →
                resolver.ask { clock := .utc, zone, time := options.start.getD now } =
                    (.ok offset, started) →
                  ((options.start.getD now).onWall offset).InRange →
                    started.ask { clock := .utc, zone, time := stop } =
                        (.error (.zoneUnknown name), later) →
                      build now options resolver =
                        (.error (.fault (.zoneMissing (.unknown name))), later)) ∧
        ∀ name, (build now options resolver).1 ≠ .error (.fault (.zoneUnknown name)) := by
  refine ⟨?_, ?_, ?_⟩
  · intro defect defective
    exact build_eq_error_iff.mpr (.expression (Options.compile_eq_error defective))
  · intro pattern compiled
    refine ⟨build_of_no_zone compiled, ?_, ?_⟩
    · intro zone name later zone_given unknown
      exact build_of_zone_unknown compiled zone_given unknown
    · intro zone name stop offset started later zone_given stop_given known shown unknown
      exact build_of_stop_unknown compiled zone_given stop_given known shown unknown
  · intro name unknown
    have refusal : Refusal now options resolver (.fault (.zoneUnknown name))
        (build now options resolver).2 :=
      build_eq_error_iff.mp (Prod.ext unknown rfl)
    exact refusal.ne_zoneUnknown rfl

/-! ### A zone that is in no catalogue -/

namespace Atlantis

/-- Every minute on the wall clock of a place that is not known. -/
def everyMinute (start stop : Option WallTime) : Options :=
  .everyMinute "Atlantis/Capital" start stop

/-- The first day of the year 2300. -/
def newYear : WallTime := WallTime.startOfYear 2300

theorem unknown (query : Query) (zone : query.zone = "Atlantis/Capital") :
    Resolver.world.ask query = (.error (.zoneUnknown "Atlantis/Capital"), .world) := by
  have not_listed : Catalogue.world.zone? "Atlantis/Capital" = none := by rfl
  simp only [Resolver.ask, Resolver.world, Resolver.ofCatalogue, Resolver.ofFunction, zone,
    not_listed]

/-- The zone is missing with a start, and cannot be resolved without one. -/
theorem missing_for_a_start :
    Pattern.compile "* * * * * *" = .ok .everyMinute ∧
      Pattern.compile "* * *" = .error (.fieldCount 3) ∧
        (∀ now stop, build now (everyMinute (some newYear) stop) .world =
          (.error (.fault (.zoneMissing (.unknown "Atlantis/Capital"))), .world)) ∧
          (∀ now, build now (everyMinute none none) .world =
            (.error (.fault (.resolution "Atlantis/Capital"
              (.reported "Unknown timezone 'Atlantis/Capital'"))), .world)) ∧
            ∀ now, build now { expression := "* * * * * *", stop := some newYear } .world =
                (.error (.fault (.zoneMissing .notGiven)), .world) ∧
              build now { expression := "* * *", stop := some newYear } .world =
                (.error (.fault (.expression (.fieldCount 3))), .world) := by
  have compiled := Pattern.compile_everyMinute
  have defective : Pattern.compile "* * *" = .error (.fieldCount 3) := by rfl
  refine ⟨compiled, defective, ?_, ?_, ?_⟩
  · intro now stop
    obtain ⟨-, faults, -⟩ := build_zone_faults now (everyMinute (some newYear) stop) .world
    exact (faults _ compiled).2.1 _ _ _ rfl (unknown _ rfl)
  · intro now
    obtain ⟨-, faults, -⟩ := build_zone_faults now (everyMinute none none) .world
    exact (faults _ compiled).2.1 _ _ _ rfl (unknown _ rfl)
  · intro now
    obtain ⟨-, faults, -⟩ := build_zone_faults now
      { expression := "* * * * * *", stop := some newYear } .world
    obtain ⟨early, -⟩ := build_zone_faults now
      { expression := "* * *", stop := some newYear } .world
    exact ⟨(faults _ compiled).1 rfl (.inr rfl), early _ defective⟩

/-- With a stop and no start the zone, which nobody knows, is not reported as missing. -/
theorem stop_alone_is_a_resolution :
    Pattern.compile "* * * * * *" = .ok .everyMinute ∧
      (∀ query : Query, query.zone = "Atlantis/Capital" →
        (Resolver.world.ask query).1 = .error (.zoneUnknown "Atlantis/Capital")) ∧
        (build (midnight ⟨0⟩) (everyMinute none (some newYear)) .world).1 =
            .error (.fault (.resolution "Atlantis/Capital"
              (.reported "Unknown timezone 'Atlantis/Capital'"))) ∧
          ∀ lack, (build (midnight ⟨0⟩) (everyMinute none (some newYear)) .world).1 ≠
            .error (.fault (.zoneMissing lack)) := by
  have reported : (build (midnight ⟨0⟩) (everyMinute none (some newYear)) .world).1 =
      .error (.fault (.resolution "Atlantis/Capital"
        (.reported "Unknown timezone 'Atlantis/Capital'"))) :=
    congrArg Prod.fst
      (build_of_zone_unknown Pattern.compile_everyMinute rfl (unknown _ rfl))
  refine ⟨Pattern.compile_everyMinute, ?_, reported, ?_⟩
  · intro query zone
    rw [unknown query zone]
  · intro lack
    rw [reported]
    rintro ⟨⟩

end Atlantis

end Schedule

end Timetable
