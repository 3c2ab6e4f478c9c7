import Timetable.Proofs.Forwards
import Timetable.Proofs.Histories
import Timetable.Proofs.Reliability
import Timetable.Proofs.YearlyRules

/-!
# The instants that a schedule emits

The order of the search is that of the wall clock, and the clock is put forward and
back.  What is emitted is nevertheless in the order of time: an occurrence stands
for the first instant at which the wall clock shows it, and where transitions are
spaced out later readings have later first instants
(`Schedule.emissions_ascending`).

The window is drawn on the wall clock too.  Nothing is emitted after the stop, and
nothing before a start at which the wall clock shows its reading for the first time.
When the clock was put back before the start, readings after that of the start may
have been shown already; they are emitted as the instants before the start, although
the wall clock shows them again after it (`Schedule.emissions_within_window`).
-/

namespace Timetable

open WallTime

set_option autoImplicit false

/-! ## The zones of a catalogue -/

namespace Resolver

/-- The offset that a resolver without a memory gives for a query, and that of universal time where
it reports a fault. -/
def offsets (resolver : Resolver Unit) (query : Query) : Offset :=
  (resolver.answer () query).1.toOption.getD ⟨0⟩

/-- A resolver without a memory answers by the query alone, unless it reports a fault. -/
theorem unreliable_offsets (resolver : Resolver Unit) :
    resolver.Unreliable resolver.offsets fun _ => ⊤ := by
  intro state query
  refine ⟨rfl, ?_⟩
  cases answer : (resolver.answer () query).1 with
  | ok offset => exact .inl ⟨by rw [offsets, answer]; exact answer, le_top⟩
  | error fault => exact .inr ⟨⟨fault, answer⟩, le_top⟩

variable {offset : Query → Offset} {catalogue : Catalogue} {name : String} {zone : Zone}
  {occurrence : WallTime} {zoned : Zoned}

theorem offsets_utc (known : catalogue.zone? name = some zone) (utc : WallTime) :
    (ofCatalogue catalogue).offsets { clock := .utc, zone := name, time := utc } =
      zone.offsetAt utc.seconds := by
  simp only [offsets, ofCatalogue, ofFunction, known]
  rfl

theorem offsets_wall (known : catalogue.zone? name = some zone) (wall : WallTime) :
    (ofCatalogue catalogue).offsets { clock := .wall, zone := name, time := wall } =
      (zone.offsetForWall? wall).getD ⟨0⟩ := by
  simp only [offsets, ofCatalogue, ofFunction, known, zoneAnswer]
  cases zone.offsetForWall? wall <;> rfl

/-- An instant is placed at what the wall clock shows then. -/
theorem placedBy_eq_reading (known : catalogue.zone? name = some zone) (utc : WallTime) :
    Schedule.placedBy (ofCatalogue catalogue).offsets name utc = zone.reading utc := by
  rw [Schedule.placedBy, offsets_utc known, Zone.reading]

/-- What comes of fixing an occurrence has the reading and the offset given for it, and the wall
clock shows the reading then. -/
theorem eq_of_fixedBy (fixed : fixedBy offset name occurrence = .ok (some zoned)) :
    zoned = zonedBy offset name occurrence ∧
      Schedule.placedBy offset name zoned.utc = occurrence := by
  simp only [fixedBy] at fixed
  split_ifs at fixed with represented in_range shown
  · cases fixed
    exact ⟨rfl, shown⟩
  · cases fixed

theorem wall_of_fixedBy (fixed : fixedBy offset name occurrence = .ok (some zoned)) :
    zoned.wall = occurrence := by
  rw [(eq_of_fixedBy fixed).1]
  rfl

/-- What is drawn by offsets was fixed by them, and it and all before it are no longer ahead. -/
theorem fixedBy_of_drawBy {occurrences left : List WallTime}
    (drawn : drawBy offset name occurrences = (some (.ok zoned), left)) :
    fixedBy offset name zoned.wall = .ok (some zoned) ∧ zoned.wall :: left <:+ occurrences := by
  induction occurrences with
  | nil => cases (Prod.mk.inj drawn).1
  | cons occurrence others ih =>
    rw [drawBy] at drawn
    split at drawn
    · rename_i fixed
      cases drawn
      rw [wall_of_fixedBy fixed]
      exact ⟨fixed, List.suffix_refl _⟩
    · exact ⟨(ih drawn).1, (ih drawn).2.trans (List.suffix_cons _ _)⟩
    · cases drawn

/-- **An occurrence is fixed to the first instant at which the wall clock shows it.** -/
theorem firstShown_of_fixedBy (known : catalogue.zone? name = some zone) (spaced : zone.SpacedOut)
    (fixed : fixedBy (ofCatalogue catalogue).offsets name occurrence = .ok (some zoned)) :
    zone.reading zoned.utc = occurrence ∧ zone.FirstShown zoned.utc := by
  obtain ⟨same, shown⟩ := eq_of_fixedBy fixed
  rw [placedBy_eq_reading known] at shown
  refine ⟨shown, Zone.firstShown_of_isLeast ?_⟩
  rw [shown]
  -- The clock shows the occurrence then, so that the lookup did not borrow the offset.
  have lookup := Zone.offsetOnWall?_spec spaced occurrence.seconds
  cases found : zone.offsetOnWall? occurrence.seconds with
  | none =>
    rw [found] at lookup
    have showing : zoned.utc.seconds ∈ zone.showings occurrence.seconds := by
      rw [← shown]
      exact (zone.seconds_reading zoned.utc).symm
    rw [lookup] at showing
    exact absurd showing (Set.notMem_empty _)
  | some offset =>
    rw [found] at lookup
    have own : zoned.utc.seconds = occurrence.seconds - offset.seconds := by
      rw [same, Zoned.utc, zonedBy, offsets_wall known, Zone.offsetForWall?, found, toUtc,
        seconds_shift]
      rfl
    rw [own]
    exact lookup

end Resolver

/-! ## Runs -/

namespace Schedule

variable {σ : Type} {offset : Query → Offset} {faults : σ → ℕ∞}

/-- A call on a schedule. -/
inductive Call where
  /-- The next item is drawn. -/
  | next
  /-- The pending occurrence is skipped. -/
  | skipPending

/-- The occurrences that are emitted in the course of calls. -/
def emissions (schedule : Schedule σ) : List Call → List Zoned
  | [] => []
  | .next :: calls =>
    match schedule.next with
    | (some (.ok zoned), rest) => zoned :: rest.emissions calls
    | (_, rest) => rest.emissions calls
  | .skipPending :: calls => schedule.skipPending.2.emissions calls

/-- Skipping leaves the others ahead. -/
theorem ahead_skipPending_suffix (schedule : Schedule σ) :
    schedule.skipPending.2.ahead <:+ schedule.ahead := by
  rw [skipPending, ahead, ahead]
  split_ifs
  · exact List.suffix_refl _
  · exact List.suffix_append _ _

/-- **Whatever is called, the occurrences emitted are taken from those ahead, in their order, and
each is fixed by the offsets of the resolver.** -/
theorem emissions_spec {schedule : Schedule σ}
    (unreliable : schedule.resolver.Unreliable offset faults) (calls : List Call) :
    ((schedule.emissions calls).map Zoned.wall).Sublist schedule.ahead ∧
      ∀ zoned ∈ schedule.emissions calls,
        Resolver.fixedBy offset schedule.zone zoned.wall = .ok (some zoned) := by
  induction calls generalizing schedule with
  | nil => exact ⟨List.nil_sublist _, nofun⟩
  | cons call calls ih =>
    cases call with
    | skipPending =>
      have same : schedule.skipPending.2.resolver.Unreliable offset faults := unreliable
      obtain ⟨taken, fixed⟩ := ih same
      exact ⟨taken.trans schedule.ahead_skipPending_suffix.sublist, fixed⟩
    | next =>
      obtain ⟨later_unreliable, zone, suffix, outcome⟩ := next_of_unreliable unreliable
      obtain ⟨taken, fixed⟩ := ih later_unreliable
      rw [zone] at fixed
      rw [emissions]
      split
      · rename_i zoned rest drawn
        rw [drawn] at taken fixed outcome
        obtain ⟨by_offsets, -⟩ | ⟨⟨fault, failed⟩, -⟩ := outcome
        · obtain ⟨here, shorter⟩ := Resolver.fixedBy_of_drawBy by_offsets
          exact ⟨(taken.cons_cons _).trans shorter.sublist, List.forall_mem_cons.mpr ⟨here, fixed⟩⟩
        · cases failed
      · rename_i rest nothing drawn
        rw [drawn] at taken fixed suffix
        exact ⟨taken.trans suffix.sublist, fixed⟩

/-! ## The order of instants -/

section Order

variable {τ : Type} {now : WallTime} {options : Options} {catalogue : Catalogue} {zone : Zone}
  {schedule : Schedule Unit}

/-- With a catalogue, an occurrence that is emitted stands for the first instant with its
reading. -/
theorem firstShown_of_mem_emissions (by_catalogue : schedule.resolver = .ofCatalogue catalogue)
    (known : catalogue.zone? schedule.zone = some zone) (spaced : zone.SpacedOut)
    {calls : List Call} {zoned : Zoned} (emitted : zoned ∈ schedule.emissions calls) :
    zone.reading zoned.utc = zoned.wall ∧ zone.FirstShown zoned.utc := by
  have fixed := (emissions_spec schedule.resolver.unreliable_offsets calls).2 zoned emitted
  rw [by_catalogue] at fixed
  exact Resolver.firstShown_of_fixedBy known spaced fixed

/-- **What a schedule emits is in the order of time**, as instants and on the wall clock, however
the clock is changed meanwhile.  Whatever happened to the schedule before, this holds of any calls
from the time on when it uses the catalogue. -/
theorem emissions_ascending {resolver : Resolver τ} {first : Schedule τ} {settled : List WallTime}
    (built : (build now options resolver).1 = .ok first) (history : History first settled schedule)
    (by_catalogue : schedule.resolver = .ofCatalogue catalogue)
    (known : catalogue.zone? schedule.zone = some zone) (spaced : zone.SpacedOut)
    (calls : List Call) :
    (schedule.emissions calls).Pairwise fun earlier later =>
      earlier.utc < later.utc ∧ earlier.wall < later.wall := by
  have idle : first.Idle := by
    obtain ⟨_, _, _, _, _, rfl⟩ := exists_ofWindow_of_build built
    exact .of_running rfl
  have ascending := (ahead_within_of_build built).1
  rw [← (history.balance idle).1] at ascending
  have taken := (emissions_spec schedule.resolver.unreliable_offsets calls).1
  have walls := (List.pairwise_append.mp ascending).2.1.sublist taken
  rw [List.pairwise_map] at walls
  refine walls.imp_of_mem ?_
  intro earlier later earlier_emitted later_emitted order
  obtain ⟨earlier_shown, earlier_first⟩ :=
    firstShown_of_mem_emissions by_catalogue known spaced earlier_emitted
  obtain ⟨later_shown, -⟩ := firstShown_of_mem_emissions by_catalogue known spaced later_emitted
  refine ⟨lt_of_le_of_ne ?_ fun same => ?_, order⟩
  · apply earlier_first.le_of_reading_le spaced
    rw [earlier_shown, later_shown]
    exact le_of_lt order
  · rw [← earlier_shown, ← later_shown, same] at order
    exact lt_irrefl _ order

end Order

/-! ### The end of summer in London

The wall clock is put back from two to one in the morning of 27 October 2024.  This
schedule is for half past one on that day and the next, and starts at a quarter past
one when the clock shows that for the second time. -/

namespace PutBack

def pattern : Pattern where
  minutes := .only (.single 30)
  hours := .only (.single 1)
  monthDays := .only ⟨#[27, 28], by decide, by decide⟩
  months := .only (.single 10)
  weekDays := .any
  year := "2024"

/-- A quarter past one on the 27th, in universal time. -/
def start : WallTime := (midnight ⟨20023⟩).shift 4500

/-- Noon on the 28th. -/
def stop : WallTime := (midnight ⟨20024⟩).shift 43200

def options : Options where
  expression := "30 1 27-28 OCT * 2024"
  zone := some "Europe/London"
  start := some start
  stop := some stop

def window : Window where
  start := start
  stop := some stop
  ordered := by decide

def schedule : Schedule Unit :=
  ofWindow options "Europe/London" pattern (some 2024) window (.ofCatalogue .world)

theorem options_compile : options.compile = .ok (pattern, some 2024) := by rfl

theorem build_eq_schedule :
    (build (midnight ⟨0⟩) options (.ofCatalogue .world)).1 = .ok schedule := by
  simp only [build, options_compile]
  rfl

theorem zone_known : Catalogue.world.zone? schedule.zone = some Zone.london := by rfl

/-- Half past one on the 27th, for the first time. -/
def summer : Zoned := ⟨(midnight ⟨20023⟩).shift 5400, ⟨3600⟩⟩

/-- Half past one on the 28th. -/
def winter : Zoned := ⟨(midnight ⟨20024⟩).shift 5400, ⟨0⟩⟩

theorem emissions_eq : schedule.emissions [.next, .skipPending, .next] = [summer, winter] := by
  decide +kernel

/-- Half past one in summer comes before half past one in winter. -/
theorem summer_before_winter :
    (build (midnight ⟨0⟩) options (.ofCatalogue .world)).1 = .ok schedule ∧
      Catalogue.world.zone? schedule.zone = some Zone.london ∧ Zone.london.SpacedOut ∧
        schedule.emissions [.next, .skipPending, .next] = [summer, winter] ∧
          summer.utc < winter.utc ∧ summer.wall < winter.wall := by
  have spaced := Catalogue.spacedOut_of_zone? zone_known
  have order := emissions_ascending build_eq_schedule .start rfl zone_known spaced
    [.next, .skipPending, .next]
  rw [emissions_eq, List.pairwise_pair] at order
  exact ⟨build_eq_schedule, zone_known, spaced, emissions_eq, order⟩

end PutBack

/-! ## The instants of the window -/

section Bounds

variable {now : WallTime} {options : Options} {catalogue : Catalogue} {zone : Zone}
  {schedule : Schedule Unit}

/-- A schedule that was built with a catalogue uses it, and its window is what the wall clock shows
at the start and at the stop. -/
theorem window_of_build (built : (build now options (.ofCatalogue catalogue)).1 = .ok schedule)
    (known : catalogue.zone? schedule.zone = some zone) :
    schedule.resolver = .ofCatalogue catalogue ∧
      schedule.window.start = zone.reading (options.start.getD now) ∧
        schedule.window.stop = options.stop.map zone.reading := by
  obtain ⟨pattern, year, window, -, made, parts, rule⟩ :=
    parts_of_build (Resolver.ofCatalogue catalogue).unreliable_offsets built
  obtain ⟨start, stop⟩ := ends_of_make made
  have name : schedule.zone = options.zone.getD defaultZone := by rw [parts]; rfl
  have placed := funext (Resolver.placedBy_eq_reading known)
  rw [name] at placed
  rw [placed] at start stop
  refine ⟨?_, ?_, ?_⟩
  · -- There is nothing that a resolver of a catalogue could remember.
    obtain ⟨_, _, _, _, _, ⟨⟨⟩, answer⟩, _, _, _⟩ := schedule
    cases rule
    rfl
  · rw [parts]
    exact start
  · rw [parts]
    exact stop

/-- **Nothing is emitted after the stop, and nothing before a start at which the wall clock shows
its reading for the first time.**  What is emitted before another start is shown again from the
start on. -/
theorem emissions_within_window
    (built : (build now options (.ofCatalogue catalogue)).1 = .ok schedule)
    (known : catalogue.zone? schedule.zone = some zone) (spaced : zone.SpacedOut)
    (calls : List Call) {zoned : Zoned} (emitted : zoned ∈ schedule.emissions calls) :
    let start := options.start.getD now
    (∀ stop ∈ options.stop, zoned.utc ≤ stop) ∧
      (zone.FirstShown start → start ≤ zoned.utc) ∧
        (zoned.utc < start → ∃ again, start ≤ again ∧ zone.reading again = zoned.wall) := by
  intro start
  obtain ⟨by_catalogue, window_start, window_stop⟩ := window_of_build built known
  obtain ⟨shown, first⟩ := firstShown_of_mem_emissions by_catalogue known spaced emitted
  have member : zoned.wall ∈ schedule.ahead :=
    (emissions_spec schedule.resolver.unreliable_offsets calls).1.subset
      (List.mem_map_of_mem emitted)
  obtain ⟨after, before⟩ := (ahead_within_of_build built).2 zoned.wall member
  rw [window_start, ← shown] at after
  refine ⟨fun stop given => ?_, fun start_first => ?_, fun passed => ?_⟩
  · apply first.le_of_reading_le spaced
    rw [shown]
    apply before
    rw [window_stop, Option.mem_def.mp given]
    rfl
  · exact start_first.le_of_reading_le spaced after
  · rw [← shown]
    exact Zone.exists_later_reading spaced passed after

end Bounds

namespace PutBack

/-- Half past one on the 27th is in time for the stop, and is shown again from the start on. -/
theorem summer_shown_again :
    (build (midnight ⟨0⟩) options (.ofCatalogue .world)).1 = .ok schedule ∧
      Catalogue.world.zone? schedule.zone = some Zone.london ∧ Zone.london.SpacedOut ∧
        summer ∈ schedule.emissions [.next] ∧ summer.utc ≤ stop ∧
          ∃ again, start ≤ again ∧ Zone.london.reading again = summer.wall := by
  have spaced := Catalogue.spacedOut_of_zone? zone_known
  have emitted : summer ∈ schedule.emissions [.next] := by decide +kernel
  obtain ⟨in_time, -, shown_again⟩ :=
    emissions_within_window build_eq_schedule zone_known spaced [.next] emitted
  have before_start : summer.utc < start := by decide
  exact ⟨build_eq_schedule, zone_known, spaced, emitted, in_time stop rfl,
    shown_again before_start⟩

/-- The instant of half past one on the 27th is before the start of the schedule that emits it. -/
theorem summer_before_start :
    Zone.london.SpacedOut ∧ Catalogue.world.zone? "Europe/London" = some Zone.london ∧
      options.zone = some "Europe/London" ∧ options.start = some start ∧
        (build (midnight ⟨0⟩) options (.ofCatalogue .world)).1 = .ok schedule ∧
          ∃ zoned ∈ schedule.emissions [.next], zoned.utc < start := by
  refine ⟨Catalogue.spacedOut_of_zone? zone_known, zone_known, rfl, rfl, build_eq_schedule,
    summer, ?_, by decide⟩
  decide +kernel

end PutBack

end Schedule

end Timetable
