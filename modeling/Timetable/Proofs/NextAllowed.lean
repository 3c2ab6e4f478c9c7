import Timetable.Field.Constraint

/-!
# The next number that is allowed

The bisection of a value set finds the first member that is not below a number:
all members before the place found are below it.  So the two questions that look
there have the answers of the plain list of members: membership, and the least
member from a number on.  A constraint gives the same answers for the numbers it
allows.

Membership may be looked for in another way as well: by comparing with the member in
the middle until it is the number.  On ascending members the two bisections and the
plain list always agree (`Constraint.searches_agree`), whatever the number of members
and wherever the number lies between them.
-/

namespace Timetable

set_option autoImplicit false

/-! ## Bisection -/

/-- The members of an ascending array are in the order of their places. -/
theorem lt_of_places {members : Array Nat} (ascending : members.toList.Pairwise (· < ·))
    {i j a b : Nat} (order : i < j) (first : members[i]? = some a) (second : members[j]? = some b) :
    a < b := by
  obtain ⟨i_within, rfl⟩ := Array.getElem?_eq_some_iff.mp first
  obtain ⟨j_within, rfl⟩ := Array.getElem?_eq_some_iff.mp second
  exact List.pairwise_iff_getElem.mp ascending i j i_within j_within order

/-- Every member before the index found is below `n`. -/
theorem lt_of_lt_lowerBound {members : Array Nat} {n low high : Nat}
    (within : high ≤ members.size) (ascending : members.toList.Pairwise (· < ·))
    (below : ∀ i k, i < low → members[i]? = some k → k < n) :
    ∀ i k, i < lowerBound members n low high within → members[i]? = some k → k < n := by
  fun_induction lowerBound members n low high within with
  | case1 low high within gap inside middle_below ih =>
    refine ih ?_
    intro i k before member
    have middle : members[(low + high) / 2]? = some members[(low + high) / 2] :=
      Array.getElem?_eq_getElem inside
    rcases Nat.lt_or_eq_of_le (Nat.le_of_lt_succ before) with order | rfl
    · exact Nat.lt_trans (lt_of_places ascending order member middle) middle_below
    · rw [middle, Option.some_inj] at member
      exact member ▸ middle_below
  | case2 low high within gap inside not_below ih => exact ih below
  | case3 low high within closed => exact below

/-- Places are in the order of the members there. -/
theorem lt_iff_of_places {members : Array Nat} (ascending : members.toList.Pairwise (· < ·))
    {i j a b : Nat} (first : members[i]? = some a) (second : members[j]? = some b) :
    i < j ↔ a < b := by
  refine ⟨fun order => lt_of_places ascending order first second, fun order => ?_⟩
  apply Nat.lt_of_not_le
  intro not_before
  rcases Nat.lt_or_eq_of_le not_before with later | rfl
  · have := lt_of_places ascending later second first
    omega
  · have := Option.some.inj (first.symm.trans second)
    omega

/-- A bisection that compares a number with the member in the middle, and leaves the half where the
number cannot be, finds it exactly when it is at a place of the part searched. -/
theorem binSearchAux_isSome_iff {members : Array Nat} (ascending : members.toList.Pairwise (· < ·))
    {n : Nat} (low : Fin (members.size + 1)) (high : Fin members.size) (order : low.1 ≤ high.1) :
    Array.binSearchAux (fun a b => decide (a < b)) Option.isSome members n low high order = true ↔
      ∃ i : Nat, low.1 ≤ i ∧ i ≤ high.1 ∧ members[i]? = some n := by
  fun_induction Array.binSearchAux (fun a b => decide (a < b)) Option.isSome members n low high
    order with
  | case1 low high order middle member below right_half _ ih =>
    have inside : members[middle]? = some member := Array.getElem?_eq_getElem (by omega)
    refine ih.trans (exists_congr fun i => ?_)
    have side (found : members[i]? = some n) : middle < i :=
      (lt_iff_of_places ascending inside found).mpr (of_decide_eq_true below)
    grind
  | case2 low high order middle member below no_right_half _ =>
    have inside : members[middle]? = some member := Array.getElem?_eq_getElem (by omega)
    refine iff_of_false nofun ?_
    rintro ⟨i, -, to_high, found⟩
    have side := (lt_iff_of_places ascending inside found).mpr (of_decide_eq_true below)
    omega
  | case3 low high order middle member not_below above no_left_half _ =>
    have inside : members[middle]? = some member := Array.getElem?_eq_getElem (by omega)
    refine iff_of_false nofun ?_
    rintro ⟨i, from_low, -, found⟩
    have side := (lt_iff_of_places ascending found inside).mpr (of_decide_eq_true above)
    omega
  | case4 low high order middle member not_below above left_half _ ih =>
    have inside : members[middle]? = some member := Array.getElem?_eq_getElem (by omega)
    refine ih.trans (exists_congr fun i => ?_)
    have side (found : members[i]? = some n) : i < middle :=
      (lt_iff_of_places ascending found inside).mpr (of_decide_eq_true above)
    grind
  | case5 low high order middle member not_below not_above _ =>
    have inside : members[middle]? = some member := Array.getElem?_eq_getElem (by omega)
    rw [decide_eq_true_iff] at not_below not_above
    obtain rfl : member = n := by omega
    exact iff_of_true rfl ⟨middle, by omega, by omega, inside⟩

namespace ValueSet

/-- The set of one number. -/
def single (n : Nat) : ValueSet where
  members := #[n]
  ascending := by simp
  nonempty := by simp

theorem mem_iff_exists_place (set : ValueSet) (n : Nat) :
    n ∈ set ↔ ∃ i : Nat, set.members[i]? = some n := by
  show n ∈ set.members.toList ↔ _
  rw [Array.mem_toList_iff, Array.mem_iff_getElem?]

/-- A member that is not below `n` is not before the place of `n`. -/
theorem place_le {set : ValueSet} {n i k : Nat} (member : set.members[i]? = some k)
    (order : n ≤ k) : set.place n ≤ i := by
  apply Nat.le_of_not_lt
  intro before
  have below := lt_of_lt_lowerBound (Nat.le_refl _) set.ascending (by simp) i k before member
  omega

/-! ## The next member -/

/-- **The next member from a number on is the least that is not below it.** -/
theorem nextFrom?_eq_some_iff (set : ValueSet) (n m : Nat) :
    set.nextFrom? n = some m ↔ m ∈ set ∧ n ≤ m ∧ ∀ k ∈ set, n ≤ k → m ≤ k := by
  have least : ∀ m, set.nextFrom? n = some m → m ∈ set ∧ n ≤ m ∧ ∀ k ∈ set, n ≤ k → m ≤ k := by
    intro m next
    refine ⟨(set.mem_iff_exists_place m).mpr ⟨_, next⟩, le_of_nextFrom? next, ?_⟩
    intro k member order
    obtain ⟨i, place⟩ := (set.mem_iff_exists_place k).mp member
    rcases Nat.lt_or_eq_of_le (place_le place order) with later | rfl
    · exact Nat.le_of_lt (lt_of_places set.ascending later next place)
    · exact Nat.le_of_eq (Option.some.inj (next.symm.trans place))
  constructor
  · exact least m
  · rintro ⟨member, order, smallest⟩
    obtain ⟨i, place⟩ := (set.mem_iff_exists_place m).mp member
    have i_within := (Array.getElem?_eq_some_iff.mp place).1
    have within : set.place n < set.members.size :=
      Nat.lt_of_le_of_lt (place_le place order) i_within
    have next : set.nextFrom? n = some set.members[set.place n] := Array.getElem?_eq_getElem within
    obtain ⟨next_member, next_order, next_smallest⟩ := least _ next
    rw [next, Option.some_inj]
    exact Nat.le_antisymm (next_smallest m member order) (smallest _ next_member next_order)

/-- There is no next member exactly when every member is below the number. -/
theorem nextFrom?_eq_none_iff (set : ValueSet) (n : Nat) :
    set.nextFrom? n = none ↔ ∀ k ∈ set, k < n := by
  constructor
  · intro none_left k member
    apply Nat.lt_of_not_le
    intro order
    obtain ⟨i, place⟩ := (set.mem_iff_exists_place k).mp member
    have i_within := (Array.getElem?_eq_some_iff.mp place).1
    have reached := place_le place order
    have beyond : set.members.size ≤ set.place n := Array.getElem?_eq_none_iff.mp none_left
    omega
  · intro below
    cases next : set.nextFrom? n with
    | none => rfl
    | some m =>
      obtain ⟨member, order, -⟩ := (set.nextFrom?_eq_some_iff n m).mp next
      have := below m member
      omega

/-- **Bisection finds exactly the members.** -/
theorem contains_iff (set : ValueSet) (n : Nat) : set.contains n = true ↔ n ∈ set := by
  have found : set.contains n = true ↔ set.nextFrom? n = some n := by
    rw [contains, nextFrom?]
    cases set.members[set.place n]? with
    | none => simp
    | some m => simp
  rw [found, nextFrom?_eq_some_iff]
  constructor
  · exact fun next => next.1
  · exact fun member => ⟨member, Nat.le_refl n, fun _ _ order => order⟩

/-- The bisection that compares with the member in the middle finds exactly the members too. -/
theorem binSearchContains_iff (set : ValueSet) (n : Nat) :
    set.members.binSearchContains n (fun a b => decide (a < b)) = true ↔ n ∈ set := by
  have occupied : 0 < set.members.size := by
    have := List.length_pos_iff.mpr set.nonempty
    rwa [Array.length_toList] at this
  rw [mem_iff_exists_place, Array.binSearchContains, dif_pos occupied]
  simp only [Nat.zero_le, dif_pos]
  rw [binSearchAux_isSome_iff set.ascending]
  refine exists_congr fun i => ?_
  grind

end ValueSet

namespace Constraint

theorem allows_only (set : ValueSet) (n : Nat) : (only set).allows n = true ↔ n ∈ set :=
  set.contains_iff n

/-- The next number from `n` on that will do is the least one. -/
theorem nextFrom?_eq_some_iff (constraint : Constraint) (n m : Nat) :
    constraint.nextFrom? n = some m ↔
      constraint.allows m = true ∧ n ≤ m ∧ ∀ k, constraint.allows k = true → n ≤ k → m ≤ k := by
  cases constraint with
  | any =>
    rw [nextFrom?, Option.some_inj]
    constructor
    · rintro rfl
      exact ⟨rfl, Nat.le_refl n, fun _ _ order => order⟩
    · rintro ⟨-, order, least⟩
      exact Nat.le_antisymm order (least n rfl (Nat.le_refl n))
  | only set =>
    simp only [allows_only]
    exact set.nextFrom?_eq_some_iff n m

/-- There is no next number exactly when no number from `n` on will do. -/
theorem nextFrom?_eq_none_iff (constraint : Constraint) (n : Nat) :
    constraint.nextFrom? n = none ↔ ∀ k, constraint.allows k = true → k < n := by
  cases constraint with
  | any =>
    rw [nextFrom?]
    constructor
    · intro impossible
      cases impossible
    · intro below
      exact absurd (below n rfl) (Nat.lt_irrefl n)
  | only set =>
    simp only [allows_only]
    exact set.nextFrom?_eq_none_iff n

/-- A number is allowed exactly when it is the next one from itself on. -/
theorem nextFrom?_eq_self_iff (constraint : Constraint) (n : Nat) :
    constraint.nextFrom? n = some n ↔ constraint.allows n = true := by
  rw [nextFrom?_eq_some_iff]
  exact ⟨fun next => next.1, fun allowed => ⟨allowed, Nat.le_refl n, fun _ _ order => order⟩⟩

/-- No number that a constraint allows lies before the next one. -/
theorem not_allows_of_lt_next {constraint : Constraint} {n m k : Nat}
    (next : constraint.nextFrom? n = some m) (order : n ≤ k) (before : k < m) :
    constraint.allows k = false := by
  obtain ⟨-, -, least⟩ := (constraint.nextFrom?_eq_some_iff n m).mp next
  rw [← Bool.not_eq_true]
  intro allowed
  have := least k allowed order
  omega

/-- **All searches agree with the plain list of members.**  A number is found, by either bisection,
exactly when it is listed, and the next member is the least that is listed and not below it.  So a
constraint allows a number exactly when it is its own next one; otherwise it allows the next one,
which is not below the number, and nothing before that; and when there is no next one it allows
nothing from the number on. -/
theorem searches_agree (set : ValueSet) (constraint : Constraint) (n : Nat) :
    (set.contains n = true ↔ n ∈ set.toList) ∧
      (set.members.binSearchContains n (fun a b => decide (a < b)) = true ↔ n ∈ set.toList) ∧
        (∀ m, set.nextFrom? n = some m ↔
          m ∈ set.toList ∧ n ≤ m ∧ ∀ k ∈ set.toList, n ≤ k → m ≤ k) ∧
          (set.nextFrom? n = none ↔ ∀ k ∈ set.toList, k < n) ∧
            (constraint.allows n = true ↔ constraint.nextFrom? n = some n) ∧
              (∀ m, constraint.nextFrom? n = some m → n ≤ m ∧ constraint.allows m = true ∧
                ∀ k, n ≤ k → k < m → constraint.allows k = false) ∧
                (constraint.nextFrom? n = none → ∀ k, n ≤ k → constraint.allows k = false) := by
  refine ⟨set.contains_iff n, set.binSearchContains_iff n, set.nextFrom?_eq_some_iff n,
    set.nextFrom?_eq_none_iff n, (constraint.nextFrom?_eq_self_iff n).symm, ?_, ?_⟩
  · intro m next
    obtain ⟨allowed, order, -⟩ := (constraint.nextFrom?_eq_some_iff n m).mp next
    exact ⟨order, allowed, fun k => not_allows_of_lt_next next⟩
  · intro none_left k order
    rw [← Bool.not_eq_true]
    intro allowed
    have := (constraint.nextFrom?_eq_none_iff n).mp none_left k allowed
    omega

end Constraint

end Timetable
