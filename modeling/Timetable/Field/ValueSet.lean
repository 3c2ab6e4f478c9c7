import Timetable.Field.Ascending
import Timetable.Text.Decimal
import Timetable.Text.Pieces

/-!
# Value sets

The numbers that a field allows, without gaps in the order: an ascending array
that is never empty.  One bisection finds the place of a number, the first
member that is not below it; membership and the next member both look there.
-/

namespace Timetable

open Text

set_option autoImplicit false

/-! ## Bisection -/

/-- The first index from `low` to `high` whose member is not below `n`, if the
members are ascending and `high` is such an index or the end. -/
def lowerBound (members : Array Nat) (n low high : Nat) (within : high ≤ members.size) : Nat :=
  if gap : low < high then
    have : (low + high) / 2 < members.size := by omega
    if members[(low + high) / 2] < n then
      lowerBound members n ((low + high) / 2 + 1) high within
    else
      lowerBound members n low ((low + high) / 2) (by omega)
  else low
termination_by high - low

/-- The member at the index found, if there is one, is not below `n`. -/
theorem le_of_lowerBound {members : Array Nat} {n low high m : Nat}
    (within : high ≤ members.size) (order : low ≤ high)
    (above : ∀ k, members[high]? = some k → n ≤ k)
    (found : members[lowerBound members n low high within]? = some m) : n ≤ m := by
  fun_induction lowerBound members n low high within with
  | case1 low high within gap inside below ih => exact ih (by omega) above found
  | case2 low high within gap inside not_below ih =>
    refine ih (by omega) ?_ found
    intro k member
    rw [Array.getElem?_eq_getElem inside, Option.some_inj] at member
    omega
  | case3 low high within closed =>
    obtain rfl : low = high := by omega
    exact above m found

/-! ## Value sets -/

/-- The numbers that a field allows, in ascending order. -/
structure ValueSet where
  /-- The members, in ascending order. -/
  members : Array Nat
  ascending : members.toList.Pairwise (· < ·)
  nonempty : members.toList ≠ []
  deriving DecidableEq

namespace ValueSet

/-- The set of the numbers of a list, if there are any. -/
def ofList? (numbers : List Nat) : Option ValueSet :=
  match form : ascendingOf numbers with
  | [] => none
  | n :: others =>
    have ascending : (n :: others).Pairwise (· < ·) := form ▸ ascendingOf_ascending numbers
    some ⟨(n :: others).toArray, ascending, List.cons_ne_nil n others⟩

/-- The members in ascending order. -/
def toList (set : ValueSet) : List Nat := set.members.toList

/-- The number of members. -/
def size (set : ValueSet) : Nat := set.members.size

/-- Whether there is no member; a value set always has one. -/
def isEmpty (set : ValueSet) : Bool := set.members.isEmpty

instance : Membership Nat ValueSet where
  mem set n := n ∈ set.toList

/-- The index of the first member that is not below `n`. -/
def place (set : ValueSet) (n : Nat) : Nat :=
  lowerBound set.members n 0 set.members.size (Nat.le_refl _)

/-- Whether a number is a member. -/
def contains (set : ValueSet) (n : Nat) : Bool :=
  match set.members[set.place n]? with
  | some m => m == n
  | none => false

/-- The least member that is not below `n`. -/
def nextFrom? (set : ValueSet) (n : Nat) : Option Nat := set.members[set.place n]?

/-- The next member from `n` on is not below `n`. -/
theorem le_of_nextFrom? {set : ValueSet} {n m : Nat} (next : set.nextFrom? n = some m) : n ≤ m :=
  le_of_lowerBound (Nat.le_refl _) (Nat.zero_le _) (by simp) next

/-- The members with commas between them. -/
def writtenChars (set : ValueSet) : List Char := joined ',' (set.toList.map digits)

/-- The members with commas between them. -/
def written (set : ValueSet) : String := String.ofList set.writtenChars

end ValueSet

end Timetable
