import Timetable.Text.Decimal
import Timetable.WallTime

/-!
# Filters

A filter looks at a candidate occurrence and lets it through, rejects it, or
ends the sequence.  A chain asks its filters in order and stops at the first that
does not let the candidate through; the filters behind that one are not asked.

Asking is written for filters with effects of any kind.  A plain filter has none,
and a traced one writes down its place in the chain when it is asked.
-/

namespace Timetable

open Text

set_option autoImplicit false

/-- What a filter says about a candidate. -/
inductive Decision where
  /-- The candidate may pass on. -/
  | accept
  /-- The candidate is dropped and the next one is tried. -/
  | reject
  /-- The sequence ends before the candidate. -/
  | terminate
  deriving DecidableEq

/-- A filter without effects. -/
abbrev Filter := WallTime → Decision

namespace Filter

/-- The filter that always says the same. -/
def always (decision : Decision) : Filter := fun _ => decision

/-- The filter that lets a year through, rejects what comes before it and ends the sequence
behind it; without a year it lets everything through. -/
def ofYear : Option Nat → Filter
  | none => always .accept
  | some year => fun time =>
    if time.year < year then .reject else if time.year = year then .accept else .terminate

end Filter

/-! ## Chains -/

/-- The first decision of a list of filters that is not to accept, or to accept if there is none;
no filter behind that one is asked. -/
@[specialize]
def firstRefusal {m : Type → Type} [Monad m] : List (m Decision) → m Decision
  | [] => pure .accept
  | filter :: others => do
    let decision ← filter
    match decision with
    | .accept => firstRefusal others
    | refusal => pure refusal

/-- The others are asked where the first filter accepts. -/
theorem firstRefusal_cons {m : Type → Type} [Monad m] (filter : m Decision)
    (others : List (m Decision)) :
    firstRefusal (filter :: others) =
      filter >>= fun decision =>
        if decision = .accept then firstRefusal others else pure decision := by
  rw [firstRefusal]
  congr 1
  funext decision
  cases decision <;> rfl

/-- Filters in the order in which they are asked. -/
structure Chain where
  filters : List Filter

namespace Chain

/-- The chain without filters. -/
def empty : Chain := ⟨[]⟩

/-- A chain with one more filter at its end. -/
def push (chain : Chain) (filter : Filter) : Chain := ⟨chain.filters ++ [filter]⟩

/-- The number of filters. -/
def size (chain : Chain) : Nat := chain.filters.length

/-- Whether there are no filters. -/
def isEmpty (chain : Chain) : Bool := chain.filters.isEmpty

/-- What a chain says about a candidate. -/
def decide (chain : Chain) (time : WallTime) : Decision :=
  Id.run (firstRefusal (chain.filters.map fun filter => pure (filter time)))

/-- A filter that writes down its index when it is asked. -/
def traced (time : WallTime) (filter : Filter) (index : Nat) : StateM (List Nat) Decision := do
  modify (· ++ [index])
  pure (filter time)

/-- What a chain says about a candidate, and the indices of the filters asked. -/
def trace (chain : Chain) (time : WallTime) : Decision × List Nat :=
  Id.run ((firstRefusal (chain.filters.mapIdx fun index filter => traced time filter index)).run [])

/-- A chain as descriptions name it. -/
def described (chain : Chain) : String :=
  "FilterChain \x7b filters: " ++ numeral chain.size ++ " \x7d"

end Chain

end Timetable
