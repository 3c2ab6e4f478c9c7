import Timetable.Pattern

/-!
# Numbers of a domain

Whatever a field is read from, the numbers that it comes to are allowed by its
domain: both ends of every stretch are checked, and a stretch does not leave its
ends.  So a pattern that was compiled asks for nothing that no calendar and no
clock has (`Pattern.inDomains_of_compile`).
-/

namespace Timetable

open Text

set_option autoImplicit false

/-- A result that two steps lead to comes from a result of the first. -/
theorem exists_of_bind_eq_ok {ε α β : Type} {first : Except ε α} {second : α → Except ε β}
    {result : β} (bound : first >>= second = .ok result) :
    ∃ intermediate, first = .ok intermediate ∧ second intermediate = .ok result := by
  cases first with
  | error fault => cases bound
  | ok intermediate => exact ⟨intermediate, rfl, bound⟩

/-- The results of a list of readings are the readings of its entries. -/
theorem exists_of_mem_of_mapM_eq_ok {ε α β : Type} {read : α → Except ε β} {entries : List α}
    {results : List β} (mapped : entries.mapM read = .ok results) :
    ∀ result ∈ results, ∃ entry ∈ entries, read entry = .ok result := by
  induction entries generalizing results with
  | nil =>
    cases mapped
    simp
  | cons entry others ih =>
    rw [List.mapM_cons] at mapped
    obtain ⟨first, entry_read, rest⟩ := exists_of_bind_eq_ok mapped
    obtain ⟨later, others_read, same⟩ := exists_of_bind_eq_ok rest
    cases same
    intro result member
    rcases List.mem_cons.mp member with rfl | member
    · exact ⟨entry, List.mem_cons_self, entry_read⟩
    · obtain ⟨source, source_member, read⟩ := ih others_read result member
      exact ⟨source, List.mem_cons_of_mem _ source_member, read⟩

namespace Stretch

/-- The numbers of a stretch are not beyond its ends. -/
theorem bounds_of_mem_numbers {stretch : Stretch} {n : Nat} (member : n ∈ stretch.numbers) :
    stretch.low ≤ n ∧ n ≤ max stretch.low stretch.high := by
  rw [numbers, List.mem_range'] at member
  obtain ⟨steps, fewer, rfl⟩ := member
  have run : stretch.step * steps ≤ stretch.high - stretch.low :=
    calc stretch.step * steps
        ≤ stretch.step * ((stretch.high - stretch.low) / stretch.step) :=
          Nat.mul_le_mul_left _ (Nat.le_of_lt_succ fewer)
      _ ≤ stretch.high - stretch.low := Nat.mul_div_le _ _
  omega

end Stretch

namespace Domain

theorem allows_of_checkBound {domain : Domain} {n : Nat} {checked : Unit}
    (passed : domain.checkBound n = .ok checked) : domain.Allows n := by
  rw [checkBound] at passed
  split at passed
  · assumption
  · cases passed

/-- The part of an item before its step, and the step where there is one. -/
def readParts (domain : Domain) (item : List Char) : Except Defect (List Char × Option Nat) :=
  match cut? '/' item with
  | some (base, text) => (fun step => (base, some step)) <$> domain.readStep text
  | none => .ok (item, none)

/-- An item is read part by part: the step, the two ends, and the bounds of either. -/
theorem readItem_eq (domain : Domain) (item : List Char) :
    domain.readItem item =
      (do
        let parts ← domain.readParts item
        let ends ← domain.readEnds parts.1 parts.2.isSome
        domain.checkBound ends.1
        domain.checkBound ends.2
        .ok { low := ends.1, high := ends.2, step := parts.2.getD 1 }) := by
  unfold readItem readParts
  cases cut? '/' item with
  | none => rfl
  | some sides =>
    cases step : domain.readStep sides.2 with
    | error defect => simp only [step]; rfl
    | ok n => simp only [step]; rfl

/-- Both ends of a stretch that was read are in the domain. -/
theorem ends_of_readItem {domain : Domain} {item : List Char} {stretch : Stretch}
    (read : domain.readItem item = .ok stretch) :
    domain.Allows stretch.low ∧ domain.Allows stretch.high := by
  rw [readItem_eq] at read
  obtain ⟨parts, -, read⟩ := exists_of_bind_eq_ok read
  obtain ⟨ends, -, read⟩ := exists_of_bind_eq_ok read
  obtain ⟨_, low_checked, read⟩ := exists_of_bind_eq_ok read
  obtain ⟨_, high_checked, read⟩ := exists_of_bind_eq_ok read
  cases read
  exact ⟨allows_of_checkBound low_checked, allows_of_checkBound high_checked⟩

end Domain

namespace ValueSet

/-- A set has the members that it is made of. -/
theorem mem_of_ofList? {numbers : List Nat} {set : ValueSet} (made : ofList? numbers = some set)
    (n : Nat) : n ∈ set ↔ n ∈ numbers := by
  rw [← mem_ascendingOf n numbers]
  rw [ofList?] at made
  split at made
  · cases made
  · rename_i first others form
    cases made
    show n ∈ first :: others ↔ n ∈ ascendingOf numbers
    rw [form]

end ValueSet

/-- Every member of a set that was read is in the domain. -/
theorem Domain.allows_of_mem_readChars {domain : Domain} {text : List Char} {set : ValueSet}
    (read : domain.readChars text = .ok set) : ∀ n ∈ set, domain.Allows n := by
  obtain ⟨stretches, items_read, made⟩ := exists_of_bind_eq_ok read
  intro n member
  split at made
  · rename_i united union
    cases made
    rw [ValueSet.mem_of_ofList? union, List.mem_flatMap] at member
    obtain ⟨stretch, stretch_member, n_member⟩ := member
    obtain ⟨item, -, item_read⟩ := exists_of_mem_of_mapM_eq_ok items_read stretch stretch_member
    obtain ⟨low_allowed, high_allowed⟩ := ends_of_readItem item_read
    have bounds := Stretch.bounds_of_mem_numbers n_member
    simp only [Allows] at *
    omega
  · cases made

/-! ## Patterns within the domains -/

namespace Constraint

/-- Whether a constraint asks for numbers of a domain only. -/
def Within (domain : Domain) : Constraint → Prop
  | any => True
  | only set => ∀ n ∈ set, domain.Allows n

end Constraint

/-- What a word of an expression asks for is in the domain of its field. -/
theorem Field.within_of_readConstraint {field : Field} {word : List Char} {constraint : Constraint}
    (read : field.readConstraint word = .ok constraint) : constraint.Within field.domain := by
  rw [readConstraint] at read
  split at read
  · cases read
    trivial
  · cases chars : field.domain.readChars word with
    | error defect =>
      rw [chars] at read
      cases read
    | ok set =>
      rw [chars] at read
      cases read
      exact Domain.allows_of_mem_readChars chars

namespace Pattern

/-- A pattern whose fields ask for numbers of their domains only. -/
structure InDomains (pattern : Pattern) : Prop where
  minutes : pattern.minutes.Within Field.minute.domain
  hours : pattern.hours.Within Field.hour.domain
  monthDays : pattern.monthDays.Within Field.monthDay.domain
  months : pattern.months.Within Field.month.domain
  weekDays : pattern.weekDays.Within Field.weekDay.domain

/-- **A pattern that was compiled keeps to the domains of its fields.** -/
theorem inDomains_of_compile {expression : String} {pattern : Pattern}
    (compiled : compile expression = .ok pattern) : pattern.InDomains := by
  unfold compile ofWords at compiled
  split at compiled
  · obtain ⟨_, -, compiled⟩ := exists_of_bind_eq_ok compiled
    obtain ⟨minutes, minutes_read, compiled⟩ := exists_of_bind_eq_ok compiled
    obtain ⟨hours, hours_read, compiled⟩ := exists_of_bind_eq_ok compiled
    obtain ⟨monthDays, monthDays_read, compiled⟩ := exists_of_bind_eq_ok compiled
    obtain ⟨months, months_read, compiled⟩ := exists_of_bind_eq_ok compiled
    obtain ⟨weekDays, weekDays_read, compiled⟩ := exists_of_bind_eq_ok compiled
    cases compiled
    exact
      { minutes := Field.within_of_readConstraint minutes_read
        hours := Field.within_of_readConstraint hours_read
        monthDays := Field.within_of_readConstraint monthDays_read
        months := Field.within_of_readConstraint months_read
        weekDays := Field.within_of_readConstraint weekDays_read }
  · cases compiled

end Pattern

end Timetable
