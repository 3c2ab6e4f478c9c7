import Timetable.Schedule

/-!
# Building a schedule

A schedule is built from an expression, a zone, the instants at which its window
starts and stops, and filters.  The expression is compiled first.  A start or a
stop needs a zone; without either the zone may be left out and is universal time.
Then the resolver places the start on the wall clock, or the current instant
where no start is given, and after it the stop.

The year of the expression becomes the last filter, and the search begins no
earlier than that year.
-/

namespace Timetable

set_option autoImplicit false

/-- The zone of a schedule for which none is given. -/
def defaultZone : String := "UTC"

namespace Schedule

variable {σ : Type}

/-- What a schedule is built from. -/
structure Options where
  expression : String := ""
  /-- The name of the zone. -/
  zone : Option String := none
  /-- The first instant of the window, in universal time; the current one where none is given. -/
  start : Option WallTime := none
  /-- The last instant of the window, in universal time. -/
  stop : Option WallTime := none
  /-- The filters that candidates pass before that of the year. -/
  filters : List Filter := []

/-- The zone of a schedule: a start or a stop demands one. -/
def Options.zoneName (options : Options) : Except Fault String :=
  match options.zone with
  | some zone => .ok zone
  | none =>
    if options.start.isSome || options.stop.isSome then .error (.zoneMissing .notGiven)
    else .ok defaultZone

/-- The pattern of a schedule and its year. -/
def Options.compile (options : Options) : Except Fault (Pattern × Option Nat) :=
  (do
    let pattern ← Pattern.compile options.expression
    let year ← readYear pattern.year.toList
    .ok (pattern, year)).mapError .expression

/-- Every minute on the wall clock of a zone. -/
def Options.everyMinute (zone : String) (start stop : Option WallTime) : Options where
  expression := "* * * * * *"
  zone := some zone
  start := start
  stop := stop

/-- A fault met while placing a given instant: an unknown zone counts as missing. -/
def asMissing : Fault → Fault
  | .zoneUnknown zone => .zoneMissing (.unknown zone)
  | other => other

/-- What the wall clock shows at an instant that was given. -/
def placeGiven (resolver : Resolver σ) (zone : String) (utc : WallTime) :
    Except Failure WallTime × Resolver σ :=
  match resolver.wallAt zone utc with
  | (.ok wall, resolver) => (.ok wall, resolver)
  | (.error failure, resolver) => (.error (failure.reword asMissing), resolver)

/-- What the wall clock shows at the start: the instant given, or else the current one. -/
def placeStart (resolver : Resolver σ) (zone : String) (now : WallTime) :
    Option WallTime → Except Failure WallTime × Resolver σ
  | some utc => placeGiven resolver zone utc
  | none =>
    match resolver.wallAt zone now with
    | (.ok wall, resolver) => (.ok wall, resolver)
    | (.error failure, resolver) => (.error (failure.reword (Fault.asResolution zone)), resolver)

/-- What the wall clock shows at the stop, if there is one. -/
def placeStop (resolver : Resolver σ) (zone : String) :
    Option WallTime → Except Failure (Option WallTime) × Resolver σ
  | none => (.ok none, resolver)
  | some utc =>
    match placeGiven resolver zone utc with
    | (.ok wall, resolver) => (.ok (some wall), resolver)
    | (.error failure, resolver) => (.error failure, resolver)

/-- The search of a window, from the year on where one is demanded. -/
def searchFor (pattern : Pattern) (window : Window) : Option Nat → Search
  | none => Search.ofWindow pattern window
  | some year => (Search.ofWindow pattern window).skipTo (WallTime.startOfYear year)

/-- The schedule of a window, before anything is drawn from it. -/
def ofWindow (options : Options) (zone : String) (pattern : Pattern) (year : Option Nat)
    (window : Window) (resolver : Resolver σ) : Schedule σ where
  expression := options.expression
  zone := zone
  window := window
  pattern := pattern
  filters := (Chain.mk options.filters).push (Filter.ofYear year)
  resolver := resolver
  search := searchFor pattern window year

/-- The schedule that the options describe, or the first failure, and the resolver after the
lookups that were made. -/
def build (now : WallTime) (options : Options) (resolver : Resolver σ) :
    Except Failure (Schedule σ) × Resolver σ :=
  match options.compile with
  | .error fault => (.error (.fault fault), resolver)
  | .ok (pattern, year) =>
    match options.zoneName with
    | .error fault => (.error (.fault fault), resolver)
    | .ok zone =>
      match placeStart resolver zone now options.start with
      | (.error failure, resolver) => (.error failure, resolver)
      | (.ok start, resolver) =>
        match placeStop resolver zone options.stop with
        | (.error failure, resolver) => (.error failure, resolver)
        | (.ok stop, resolver) =>
          match Window.make start stop with
          | .error fault => (.error (.fault fault), resolver)
          | .ok window => (.ok (ofWindow options zone pattern year window resolver), resolver)

end Schedule

end Timetable
