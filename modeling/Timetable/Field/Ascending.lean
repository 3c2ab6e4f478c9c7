/-!
# Ascending lists

A list of numbers in ascending order, each of them once, is the form in which
the members of a set are kept.  Any list is brought into it by cutting it into
runs that ascend already and uniting the runs.  Two runs are united in one pass.
Many are united like the carries of a counter: a level is vacant or holds one
union, and where two meet they go one level up together, so a number takes part
in few unions.

The main statements say that the ascending form of a list has the members of the
list and no others, and that it ascends.
-/

namespace Timetable

set_option autoImplicit false

/-! ## Runs -/

/-- A number in front of runs: it begins the first one if it is below the member there. -/
def beginRun (n : Nat) : List (List Nat) → List (List Nat)
  | (m :: run) :: others =>
    if n < m then (n :: m :: run) :: others else [n] :: (m :: run) :: others
  | others => [n] :: others

/-- The ascending runs of a list, one after the other. -/
def runs (numbers : List Nat) : List (List Nat) := numbers.foldr beginRun []

theorem flatten_beginRun (n : Nat) (others : List (List Nat)) :
    (beginRun n others).flatten = n :: others.flatten := by
  unfold beginRun
  split
  · split <;> simp
  · simp

/-- The runs make up the list. -/
theorem flatten_runs (numbers : List Nat) : (runs numbers).flatten = numbers := by
  induction numbers with
  | nil => rfl
  | cons n numbers ih => rw [runs, List.foldr_cons, flatten_beginRun, ← runs, ih]

theorem beginRun_ascending (n : Nat) {others : List (List Nat)}
    (ascending : ∀ run ∈ others, run.Pairwise (· < ·)) :
    ∀ run ∈ beginRun n others, run.Pairwise (· < ·) := by
  unfold beginRun
  split
  · rename_i m first others
    split
    · rename_i below
      have first_ascending := ascending (m :: first) List.mem_cons_self
      intro run member
      rcases List.mem_cons.mp member with rfl | member
      · refine List.pairwise_cons.mpr ⟨?_, first_ascending⟩
        intro k k_member
        rcases List.mem_cons.mp k_member with rfl | k_member
        · exact below
        · exact Nat.lt_trans below ((List.pairwise_cons.mp first_ascending).1 k k_member)
      · exact ascending run (List.mem_cons_of_mem _ member)
    · intro run member
      rcases List.mem_cons.mp member with rfl | member
      · exact List.pairwise_singleton _ n
      · exact ascending run member
  · intro run member
    rcases List.mem_cons.mp member with rfl | member
    · exact List.pairwise_singleton _ n
    · exact ascending run member

/-- Every run ascends. -/
theorem runs_ascending (numbers : List Nat) : ∀ run ∈ runs numbers, run.Pairwise (· < ·) := by
  induction numbers with
  | nil => simp [runs]
  | cons n numbers ih => exact beginRun_ascending n ih

/-! ## The union of two -/

/-- A number taken into an ascending list at a place that moves on: `passed` are the members
before the place, the last of them first, and `ahead` those from the place on. -/
def takeIn (n : Nat) (passed : List Nat) : List Nat → List Nat × List Nat
  | [] => (n :: passed, [])
  | m :: ahead =>
    if m < n then takeIn n (m :: passed) ahead
    else (n :: passed, if m = n then ahead else m :: ahead)

theorem mem_takeIn (k n : Nat) (passed ahead : List Nat) :
    k ∈ (takeIn n passed ahead).1 ∨ k ∈ (takeIn n passed ahead).2 ↔
      k = n ∨ k ∈ passed ∨ k ∈ ahead := by
  induction ahead generalizing passed with
  | nil => simp [takeIn]
  | cons m ahead ih =>
    simp only [takeIn]
    split
    · rw [ih, List.mem_cons, List.mem_cons]
      grind
    · split <;> simp only [List.mem_cons] <;> grind

/-- No member passed is above the number taken in. -/
theorem le_of_mem_takeIn {n : Nat} {passed ahead : List Nat} (below : ∀ m ∈ passed, m < n) :
    ∀ m ∈ (takeIn n passed ahead).1, m ≤ n := by
  have reached : ∀ m ∈ n :: passed, m ≤ n := by
    intro m member
    rcases List.mem_cons.mp member with rfl | member
    · exact Nat.le_refl _
    · exact Nat.le_of_lt (below m member)
  induction ahead generalizing passed with
  | nil => exact reached
  | cons k ahead ih =>
    simp only [takeIn]
    split
    · rename_i before
      have still_below : ∀ m ∈ k :: passed, m < n := by
        intro m member
        rcases List.mem_cons.mp member with rfl | member
        · exact before
        · exact below m member
      refine ih still_below ?_
      intro m member
      rcases List.mem_cons.mp member with rfl | member
      · exact Nat.le_refl _
      · exact Nat.le_of_lt (still_below m member)
    · exact reached

/-- The list ascends still when a number above the members passed is taken in. -/
theorem takeIn_ascending {n : Nat} {passed ahead : List Nat} (below : ∀ m ∈ passed, m < n)
    (ascending : (passed.reverse ++ ahead).Pairwise (· < ·)) :
    ((takeIn n passed ahead).1.reverse ++ (takeIn n passed ahead).2).Pairwise (· < ·) := by
  induction ahead generalizing passed with
  | nil =>
    simp only [takeIn, List.reverse_cons, List.append_nil] at *
    rw [List.pairwise_append]
    exact ⟨ascending, List.pairwise_singleton _ n, by simpa using below⟩
  | cons k ahead ih =>
    simp only [takeIn]
    split
    · rename_i before
      refine ih ?_ (by simpa using ascending)
      intro m member
      rcases List.mem_cons.mp member with rfl | member
      · exact before
      · exact below m member
    · rename_i not_before
      split
      · rename_i same
        rw [same] at ascending
        simpa using ascending
      · rename_i other
        rw [List.pairwise_append] at ascending
        obtain ⟨passed_ascending, ahead_ascending, apart⟩ := ascending
        rw [List.reverse_cons, List.append_assoc, List.pairwise_append]
        refine ⟨passed_ascending, List.pairwise_cons.mpr ⟨?_, ahead_ascending⟩, ?_⟩
        · intro m member
          rcases List.mem_cons.mp member with rfl | member
          · omega
          · have := (List.pairwise_cons.mp ahead_ascending).1 m member
            omega
        · intro m member l l_member
          rcases List.mem_cons.mp l_member with rfl | l_member
          · exact below m (List.mem_reverse.mp member)
          · exact apart m member l l_member

/-- Numbers taken in one after the other. -/
def takeAllIn : List Nat → List Nat → List Nat → List Nat
  | passed, [], ahead => passed.reverseAux ahead
  | passed, n :: numbers, ahead =>
    let (passed, ahead) := takeIn n passed ahead
    takeAllIn passed numbers ahead

theorem mem_takeAllIn (k : Nat) (passed numbers ahead : List Nat) :
    k ∈ takeAllIn passed numbers ahead ↔ k ∈ passed ∨ k ∈ numbers ∨ k ∈ ahead := by
  induction numbers generalizing passed ahead with
  | nil => simp [takeAllIn, List.reverseAux_eq]
  | cons n numbers ih =>
    have taken := mem_takeIn k n passed ahead
    rw [takeAllIn, ih, List.mem_cons]
    grind

theorem takeAllIn_ascending {passed numbers ahead : List Nat}
    (below : ∀ m ∈ passed, ∀ n ∈ numbers, m < n) (numbers_ascending : numbers.Pairwise (· < ·))
    (ascending : (passed.reverse ++ ahead).Pairwise (· < ·)) :
    (takeAllIn passed numbers ahead).Pairwise (· < ·) := by
  induction numbers generalizing passed ahead with
  | nil => simpa [takeAllIn, List.reverseAux_eq] using ascending
  | cons n numbers ih =>
    have below_first : ∀ m ∈ passed, m < n := fun m member => below m member n List.mem_cons_self
    rw [List.pairwise_cons] at numbers_ascending
    refine ih ?_ numbers_ascending.2 (takeIn_ascending below_first ascending)
    intro m member k k_member
    exact Nat.lt_of_le_of_lt (le_of_mem_takeIn below_first m member)
      (numbers_ascending.1 k k_member)

/-- The union of two ascending lists. -/
def ascendingUnion (left right : List Nat) : List Nat := takeAllIn [] left right

theorem mem_ascendingUnion (k : Nat) (left right : List Nat) :
    k ∈ ascendingUnion left right ↔ k ∈ left ∨ k ∈ right := by
  simp [ascendingUnion, mem_takeAllIn]

theorem ascendingUnion_ascending {left right : List Nat} (left_ascending : left.Pairwise (· < ·))
    (right_ascending : right.Pairwise (· < ·)) : (ascendingUnion left right).Pairwise (· < ·) :=
  takeAllIn_ascending (by simp) left_ascending (by simpa using right_ascending)

/-! ## The union of many -/

/-- A list more on the levels: it stays on the first level that is vacant, and every one before
joins in and becomes vacant. -/
def carry (members : List Nat) : List (List Nat) → List (List Nat)
  | [] => [members]
  | [] :: levels => members :: levels
  | level :: levels => [] :: carry (ascendingUnion level members) levels

theorem mem_carry (k : Nat) (members : List Nat) (levels : List (List Nat)) :
    k ∈ (carry members levels).flatten ↔ k ∈ members ∨ k ∈ levels.flatten := by
  fun_induction carry members levels with
  | case1 members => simp
  | case2 members levels => simp
  | case3 members level levels occupied ih =>
    rw [List.flatten_cons, List.nil_append, ih, mem_ascendingUnion, List.flatten_cons,
      List.mem_append]
    grind

theorem carry_ascending {members : List Nat} {levels : List (List Nat)}
    (members_ascending : members.Pairwise (· < ·))
    (ascending : ∀ level ∈ levels, level.Pairwise (· < ·)) :
    ∀ level ∈ carry members levels, level.Pairwise (· < ·) := by
  fun_induction carry members levels with
  | case1 members => simpa using members_ascending
  | case2 members levels =>
    rw [List.forall_mem_cons] at *
    exact ⟨members_ascending, ascending.2⟩
  | case3 members level levels occupied ih =>
    rw [List.forall_mem_cons] at *
    exact ⟨List.Pairwise.nil,
      ih (ascendingUnion_ascending ascending.1 members_ascending) ascending.2⟩

/-- Lists more on the levels, one after the other. -/
def carryAll : List (List Nat) → List (List Nat) → List (List Nat)
  | [], levels => levels
  | members :: lists, levels => carryAll lists (carry members levels)

theorem mem_carryAll (k : Nat) (lists levels : List (List Nat)) :
    k ∈ (carryAll lists levels).flatten ↔ k ∈ lists.flatten ∨ k ∈ levels.flatten := by
  induction lists generalizing levels with
  | nil => simp [carryAll]
  | cons members lists ih =>
    rw [carryAll, ih, mem_carry, List.flatten_cons, List.mem_append]
    grind

theorem carryAll_ascending {lists levels : List (List Nat)}
    (lists_ascend : ∀ members ∈ lists, members.Pairwise (· < ·))
    (levels_ascend : ∀ level ∈ levels, level.Pairwise (· < ·)) :
    ∀ level ∈ carryAll lists levels, level.Pairwise (· < ·) := by
  induction lists generalizing levels with
  | nil => exact levels_ascend
  | cons members lists ih =>
    rw [List.forall_mem_cons] at lists_ascend
    exact ih lists_ascend.2 (carry_ascending lists_ascend.1 levels_ascend)

theorem mem_foldl_ascendingUnion (k : Nat) (members : List Nat) (lists : List (List Nat)) :
    k ∈ lists.foldl ascendingUnion members ↔ k ∈ members ∨ k ∈ lists.flatten := by
  induction lists generalizing members with
  | nil => simp
  | cons first lists ih =>
    rw [List.foldl_cons, ih, mem_ascendingUnion, List.flatten_cons, List.mem_append, or_assoc]

theorem foldl_ascendingUnion_ascending {members : List Nat} {lists : List (List Nat)}
    (members_ascending : members.Pairwise (· < ·))
    (ascending : ∀ list ∈ lists, list.Pairwise (· < ·)) :
    (lists.foldl ascendingUnion members).Pairwise (· < ·) := by
  induction lists generalizing members with
  | nil => exact members_ascending
  | cons first lists ih =>
    rw [List.forall_mem_cons] at ascending
    exact ih (ascendingUnion_ascending members_ascending ascending.1) ascending.2

/-! ## The ascending form -/

/-- The members of a list in ascending order, each once. -/
def ascendingOf (numbers : List Nat) : List Nat :=
  (carryAll (runs numbers) []).foldl ascendingUnion []

/-- The ascending form has the members of the list. -/
theorem mem_ascendingOf (k : Nat) (numbers : List Nat) : k ∈ ascendingOf numbers ↔ k ∈ numbers := by
  rw [ascendingOf, mem_foldl_ascendingUnion, mem_carryAll, flatten_runs]
  simp

/-- The ascending form ascends. -/
theorem ascendingOf_ascending (numbers : List Nat) : (ascendingOf numbers).Pairwise (· < ·) :=
  foldl_ascendingUnion_ascending List.Pairwise.nil
    (carryAll_ascending (runs_ascending numbers) (by simp))

end Timetable
