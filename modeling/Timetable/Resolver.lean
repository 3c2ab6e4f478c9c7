import Timetable.Fault
import Timetable.Zone.Catalogue

/-!
# Resolvers

A resolver is asked for the offset of a zone, for a reading of its wall clock or
of the universal clock.  It answers with an offset or a fault, and may remember
what it was asked: it is a state and a rule that answers a query in a state and
tells the state that follows.  A resolver that never changes its state answers
by the query alone.
-/

namespace Timetable

set_option autoImplicit false

/-- The clock that a query reads. -/
inductive Clock where
  /-- The wall clock of the zone. -/
  | wall
  /-- The clock of universal time. -/
  | utc
  deriving DecidableEq

/-- A question for an offset. -/
structure Query where
  /-- The clock that shows the reading. -/
  clock : Clock
  /-- The name of the zone. -/
  zone : String
  /-- The reading of the clock. -/
  time : WallTime
  deriving DecidableEq

/-- Somebody who knows offsets, with a memory. -/
structure Resolver (σ : Type) where
  /-- What is remembered so far. -/
  state : σ
  /-- The answer to a query, and what is remembered after it. -/
  answer : σ → Query → Except Fault Offset × σ

namespace Resolver

variable {σ τ : Type}

/-- The answer to a query, and the resolver after it. -/
def ask (resolver : Resolver σ) (query : Query) : Except Fault Offset × Resolver σ :=
  let (answer, state) := resolver.answer resolver.state query
  (answer, { resolver with state })

/-- The resolver that answers by the query alone. -/
def ofFunction (answer : Query → Except Fault Offset) : Resolver Unit where
  state := ()
  answer := fun _ query => (answer query, ())

/-! ## Zones by name -/

/-- The answer of a zone to a query. -/
def zoneAnswer (zone : Zone) (query : Query) : Except Fault Offset :=
  match query.clock with
  | .utc => .ok (zone.offsetAt query.time.seconds)
  | .wall =>
    match zone.offsetForWall? query.time with
    | some offset => .ok offset
    | none => .error (.resolution query.zone (.noOffset query.time))

/-- The resolver that looks zones up in a catalogue. -/
def ofCatalogue (catalogue : Catalogue) : Resolver Unit :=
  ofFunction fun query =>
    match catalogue.zone? query.zone with
    | some zone => zoneAnswer zone query
    | none => .error (.zoneUnknown query.zone)

/-- The resolver that knows the zones of the world. -/
def world : Resolver Unit := ofCatalogue .world

/-! ## Other resolvers -/

/-- Offsets by reading: the last listed step whose reading has come counts, and before any the
base. -/
structure StepTable where
  base : Offset
  steps : List (WallTime × Offset)

namespace StepTable

/-- The offset at a reading. -/
def offsetAt (table : StepTable) (time : WallTime) : Offset :=
  table.steps.foldl (fun offset step => if step.1 ≤ time then step.2 else offset) table.base

end StepTable

/-- The resolver that has one table for each clock, whatever the zone. -/
def ofTables (wall utc : StepTable) : Resolver Unit :=
  ofFunction fun query =>
    match query.clock with
    | .wall => .ok (wall.offsetAt query.time)
    | .utc => .ok (utc.offsetAt query.time)

/-- The resolver that knows no zone. -/
def nowhere : Resolver Unit := ofFunction fun query => .error (.zoneUnknown query.zone)

/-- The resolver that passes the queries for one zone on to `inner` and all others to `others`. -/
def delegate (zone : String) (inner : Resolver σ) (others : Resolver τ) : Resolver (σ × τ) where
  state := (inner.state, others.state)
  answer := fun (innerState, othersState) query =>
    if query.zone = zone then
      let (answer, innerState) := inner.answer innerState query
      (answer, innerState, othersState)
    else
      let (answer, othersState) := others.answer othersState query
      (answer, innerState, othersState)

/-- How many queries there were for either clock. -/
structure Tally where
  wall : Nat := 0
  utc : Nat := 0
  deriving DecidableEq

namespace Tally

/-- The number of queries for a clock. -/
def count (tally : Tally) : Clock → Nat
  | .wall => tally.wall
  | .utc => tally.utc

/-- One more query for a clock. -/
def add (tally : Tally) : Clock → Tally
  | .wall => { tally with wall := tally.wall + 1 }
  | .utc => { tally with utc := tally.utc + 1 }

end Tally

/-- The resolver that counts the queries for either clock from zero and reports the fault that
`interruption` names for a count; where it names none, `inner` answers. -/
def interrupted (interruption : Clock → Nat → Option Fault) (inner : Resolver σ) :
    Resolver (Tally × σ) where
  state := ({}, inner.state)
  answer := fun (tally, innerState) query =>
    match interruption query.clock (tally.count query.clock) with
    | some fault => (.error fault, tally.add query.clock, innerState)
    | none =>
      let (answer, innerState) := inner.answer innerState query
      (answer, tally.add query.clock, innerState)

/-- A query, and the answer that it was given. -/
structure Consultation where
  query : Query
  answer : Except Fault Offset

/-- The resolver that passes all queries on to `inner` and adds each of them, with the answer, to a
record. -/
def recording (record : List Consultation) (inner : Resolver σ) :
    Resolver (List Consultation × σ) where
  state := (record, inner.state)
  answer := fun (record, innerState) query =>
    let (answer, innerState) := inner.answer innerState query
    (answer, record ++ [{ query, answer }], innerState)

end Resolver

end Timetable
