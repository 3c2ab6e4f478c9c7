import Mathlib.Data.List.Sort
import Timetable.Pattern.Stored
import Timetable.Proofs.Grammar

/-!
# The canonical form

A value set is written as the list of its members, and reading the list gives the set
again wherever the domain allows the members and has no numeral among its names
(`Domain.readChars_writtenChars`).  A comma between two fields unites what they say, so
two sets that are written one after the other are read as their union
(`Domain.read_written`).  Field by field the first carries over to patterns.

The canonical patterns are those whose fields keep to their domains and whose year is a
star or a numeral below the limit.  They are the patterns that something compiles to,
and they are the ones that their own canonical form compiles to
(`Pattern.compile_written_iff`).
-/

namespace Timetable

open Text

set_option autoImplicit false

/-! ## Value sets -/

namespace ValueSet

/-- A set is that of its members. -/
theorem ofList?_toList (set : ValueSet) : ofList? set.toList = some set := by
  have same : ascendingOf set.toList = set.toList :=
    (ascendingOf_ascending _).eq_of_mem_iff set.ascending fun n => mem_ascendingOf n _
  rw [ofList?]
  split
  · rename_i form
    exact absurd (same.symm.trans form) set.nonempty
  · rename_i first others form
    obtain ⟨⟨members⟩, ascending, nonempty⟩ := set
    cases same.symm.trans form
    rfl

end ValueSet

namespace Stretch

/-- The stretch of one number. -/
def single (n : Nat) : Stretch := { low := n, high := n, step := 1 }

/-- Stretches of one number each unite to the list of the numbers. -/
theorem flatMap_single (numbers : List Nat) :
    (numbers.map single).flatMap Stretch.numbers = numbers := by
  have alone : Stretch.numbers ∘ single = fun n => [n] := by
    funext n
    simp [single, Stretch.numbers]
  rw [List.flatMap_map, ← Function.comp_def, alone]
  exact List.flatMap_singleton' numbers

end Stretch

namespace Domain

variable {domain : Domain}

/-- No name of a domain is a numeral. -/
def NamesApart (domain : Domain) : Prop :=
  ∀ entry ∈ domain.names, isNumeral entry.1.toList = false

instance (domain : Domain) : Decidable domain.NamesApart :=
  inferInstanceAs (Decidable (∀ entry ∈ domain.names, _))

/-- The digits of a number denote it. -/
theorem denotes_digits (apart : domain.NamesApart) {n : Nat} (below : n < numberLimit) :
    domain.Denotes (digits n) n := by
  have unnamed : domain.named? (String.ofList (digits n)) = none := by
    rw [named?, List.lookup_eq_none_iff]
    intro entry member
    rw [bne_iff_ne]
    intro same
    have no_numeral := apart entry member
    rw [← same, String.toList_ofList, isNumeral_digits] at no_numeral
    cases no_numeral
  have numeral := Denotes.numeral unnamed (isNumeral_digits n) (by rwa [digitsValue_digits])
  rwa [digitsValue_digits] at numeral

/-- A character that is no digit does not occur in the digits of a number. -/
theorem not_mem_digits {c : Char} (no_digit : c.isDigit = false) (n : Nat) : c ∉ digits n := by
  intro member
  rw [isDigit_of_mem_digits c member] at no_digit
  cases no_digit

/-- The digits of a number that the domain allows stand for that number alone. -/
theorem reads_digits (apart : domain.NamesApart) {n : Nat} (allowed : domain.Allows n) :
    domain.Reads (digits n) (.single n) := by
  have below : n < numberLimit := Nat.lt_of_le_of_lt allowed.2 domain.greatest_lt
  have not_star : digits n ≠ ['*'] := by
    intro star
    exact not_mem_digits (c := '*') (by decide) n (by rw [star]; exact List.mem_cons_self)
  have spans : domain.Spans false (digits n) n n :=
    .token not_star (not_mem_digits (by decide) n) (denotes_digits apart below)
  exact .plain (not_mem_digits (by decide) n) spans allowed allowed

/-- The items of a written list of numbers are the digits of the numbers. -/
theorem itemsOf_joined_digits {numbers : List Nat} (nonempty : numbers ≠ []) :
    itemsOf (joined ',' (numbers.map digits)) = numbers.map digits := by
  have cut : pieces (· = ',') (joined ',' (numbers.map digits)) = numbers.map digits := by
    refine pieces_joined (by decide) (by simpa using nonempty) ?_
    intro part member c c_member
    obtain ⟨n, -, rfl⟩ := List.mem_map.mp member
    rw [decide_eq_false_iff_not]
    rintro rfl
    exact not_mem_digits (by decide) n c_member
  have trimmed (n : Nat) : trim (digits n) = digits n :=
    trim_of_not_blank fun c member => not_isBlank_of_isDigit (isDigit_of_mem_digits c member)
  have capitals (n : Nat) : upper (digits n) = digits n := upper_of_isDigit isDigit_of_mem_digits
  rw [itemsOf, cut, List.map_map, List.filter_eq_self.mpr, List.map_map]
  · exact List.map_congr_left fun n _ => by
      rw [Function.comp_apply, Function.comp_apply, trimmed, capitals]
  · intro item member
    obtain ⟨n, -, rfl⟩ := List.mem_map.mp member
    rw [Function.comp_apply, trimmed, Bool.not_eq_true', List.isEmpty_eq_false_iff]
    exact digits_ne_nil n

/-- **A set whose members the domain allows is read back from what is written.** -/
theorem readChars_writtenChars (apart : domain.NamesApart) {set : ValueSet}
    (within : ∀ n ∈ set, domain.Allows n) : domain.readChars set.writtenChars = .ok set := by
  have items_read {numbers : List Nat} (allowed : ∀ n ∈ numbers, domain.Allows n) :
      (numbers.map digits).mapM domain.readItem = .ok (numbers.map Stretch.single) := by
    induction numbers with
    | nil => rfl
    | cons n others ih =>
      rw [List.forall_mem_cons] at allowed
      have first := (readItem_eq_ok_iff _ _).mpr (reads_digits apart allowed.1)
      rw [List.map_cons, List.mapM_cons, first, ih allowed.2]
      rfl
  refine (readChars_eq_ok_iff _ _).mpr ⟨set.toList.map Stretch.single, ?_, ?_⟩
  · have items : itemsOf set.writtenChars = set.toList.map digits :=
      itemsOf_joined_digits set.nonempty
    rw [items, items_read within]
  · rw [Stretch.flatMap_single, ValueSet.ofList?_toList]

/-! ## Two fields in one -/

/-- The items of two fields with a comma between them are those of one and then those of the
other. -/
theorem itemsOf_append_comma (left right : List Char) :
    itemsOf (left ++ ',' :: right) = itemsOf left ++ itemsOf right := by
  have cut : pieces (· = ',') (left ++ ',' :: right) =
      pieces (· = ',') left ++ pieces (· = ',') right :=
    pieces_append_separator (by decide) left right
  rw [itemsOf, cut, List.map_append, List.filter_append, List.map_append, ← itemsOf, ← itemsOf]

/-- **A comma between two fields that can be read unites what they are read as.** -/
theorem readChars_append_comma {left right : List Char} {set other : ValueSet}
    (left_read : domain.readChars left = .ok set)
    (right_read : domain.readChars right = .ok other) :
    ∃ union, domain.readChars (left ++ ',' :: right) = .ok union ∧
      ∀ n, n ∈ union ↔ n ∈ set ∨ n ∈ other := by
  obtain ⟨stretches, left_mapped, left_made⟩ := (readChars_eq_ok_iff _ _).mp left_read
  obtain ⟨others, right_mapped, right_made⟩ := (readChars_eq_ok_iff _ _).mp right_read
  have mapped : (itemsOf (left ++ ',' :: right)).mapM domain.readItem =
      .ok (stretches ++ others) := by
    rw [itemsOf_append_comma, List.mapM_append, left_mapped, right_mapped]
    rfl
  have numbers (n : Nat) : n ∈ (stretches ++ others).flatMap Stretch.numbers ↔
      n ∈ set ∨ n ∈ other := by
    rw [List.flatMap_append, List.mem_append, ← ValueSet.mem_of_ofList? left_made,
      ← ValueSet.mem_of_ofList? right_made]
  -- The first field has a number, so the two together have one.
  obtain ⟨n, member⟩ := List.exists_mem_of_ne_nil _ set.nonempty
  obtain ⟨union, made⟩ := ValueSet.exists_ofList?_eq_some ((numbers n).mpr (.inl member))
  refine ⟨union, (readChars_eq_ok_iff _ _).mpr ⟨_, mapped, made⟩, fun k => ?_⟩
  rw [ValueSet.mem_of_ofList? made, numbers]

/-- **What a set that was read is written as is read as the set again, and with a comma between
them two such texts are read as the union of the sets.** -/
theorem read_written (domain : Domain) (apart : domain.NamesApart) {expression : String}
    {set : ValueSet} (read : domain.read expression = .ok set) :
    domain.read set.written = .ok set ∧
      ∀ other_expression other, domain.read other_expression = .ok other →
        ∃ union, domain.read (set.written ++ "," ++ other.written) = .ok union ∧
          ∀ n, n ∈ union ↔ n ∈ set ∨ n ∈ other := by
  have again {source : String} {made : ValueSet} (source_read : domain.read source = .ok made) :
      domain.readChars made.writtenChars = .ok made :=
    readChars_writtenChars apart (allows_of_mem_readChars source_read)
  have set_again := again read
  constructor
  · rw [Domain.read, ValueSet.written, String.toList_ofList, set_again]
  · intro other_expression other other_read
    have both : (set.written ++ "," ++ other.written).toList =
        set.writtenChars ++ ',' :: other.writtenChars := by
      simp [ValueSet.written]
    rw [Domain.read, both]
    exact readChars_append_comma set_again (again other_read)

namespace Ordinals

/-- Numbers up to the greatest of all, with a name that begins with a digit. -/
def ordinals : Domain where
  field := .hour
  least := 3
  greatest := 4294967295
  names := [("LOW", 3), ("9TH", 9)]

/-- What is read from steps between two names and the greatest number. -/
def sparse : ValueSet := ⟨#[3, 6, 9, 4294967295], by decide, by decide⟩

/-- What is read from numbers that overlap. -/
def dense : ValueSet := ⟨#[8, 9, 10], by decide, by decide⟩

/-- Nine is in both sets and once in the union. -/
theorem sparse_union_dense :
    ordinals.NamesApart ∧ ordinals.read "low-9th/3, 4294967295" = .ok sparse ∧
      ordinals.read "9-10,,8-9th" = .ok dense ∧ ordinals.read sparse.written = .ok sparse ∧
        ∃ union, ordinals.read (sparse.written ++ "," ++ dense.written) = .ok union ∧
          ∀ n, n ∈ union ↔ n ∈ sparse ∨ n ∈ dense := by
  have apart : ordinals.NamesApart := by decide
  have sparse_read : ordinals.read "low-9th/3, 4294967295" = .ok sparse := by rfl
  have dense_read : ordinals.read "9-10,,8-9th" = .ok dense := by rfl
  obtain ⟨again, united⟩ := read_written ordinals apart sparse_read
  exact ⟨apart, sparse_read, dense_read, again, united _ dense dense_read⟩

end Ordinals

end Domain

/-! ## Constraints -/

theorem Field.names_apart (field : Field) : field.domain.NamesApart := by
  cases field <;> decide

/-- A written set is made of digits and commas. -/
theorem ValueSet.isDigit_of_mem_writtenChars {set : ValueSet} {c : Char}
    (member : c ∈ set.writtenChars) : c.isDigit = true ∨ c = ',' := by
  rcases mem_joined member with comma | ⟨part, part_member, c_member⟩
  · exact .inr comma
  · obtain ⟨n, -, rfl⟩ := List.mem_map.mp part_member
    exact .inl (isDigit_of_mem_digits c c_member)

theorem ValueSet.writtenChars_ne_star (set : ValueSet) : set.writtenChars ≠ ['*'] := by
  intro star
  have member : '*' ∈ set.writtenChars := by rw [star]; exact List.mem_cons_self
  rcases isDigit_of_mem_writtenChars member with digit | comma
  · cases digit
  · cases comma

namespace Constraint

/-- A constraint within the domain of its field is read back from what is written. -/
theorem readConstraint_writtenChars {field : Field} {constraint : Constraint}
    (within : constraint.Within field.domain) :
    field.readConstraint constraint.writtenChars = .ok constraint := by
  cases constraint with
  | any => rfl
  | only set =>
    rw [Field.readConstraint, writtenChars, if_neg set.writtenChars_ne_star,
      Domain.readChars_writtenChars field.names_apart within]
    rfl

/-- A written constraint is a word. -/
theorem not_isBlank_of_mem_writtenChars (constraint : Constraint) :
    ∀ c ∈ constraint.writtenChars, isBlank c = false := by
  intro c member
  cases constraint with
  | any =>
    obtain rfl := List.mem_singleton.mp member
    decide
  | only set =>
    rcases set.isDigit_of_mem_writtenChars member with digit | rfl
    · exact not_isBlank_of_isDigit digit
    · decide

theorem writtenChars_ne_nil (constraint : Constraint) : constraint.writtenChars ≠ [] := by
  cases constraint with
  | any => exact List.cons_ne_nil _ _
  | only set =>
    refine joined_ne_nil (fun none_left => set.nonempty (List.map_eq_nil_iff.mp none_left)) ?_
    intro part member
    obtain ⟨n, -, rfl⟩ := List.mem_map.mp member
    exact digits_ne_nil n

end Constraint

/-! ## Years -/

/-- A word that may stand for the year: a star, or a numeral below the limit. -/
def IsYearWord (word : List Char) : Prop :=
  word = ['*'] ∨ isNumeral word = true ∧ digitsValue 0 word < yearTokenLimit

/-- A year is read exactly from such a word. -/
theorem exists_readYear_eq_ok_iff (word : List Char) :
    (∃ year, readYear word = .ok year) ↔ IsYearWord word := by
  rw [readYear, IsYearWord]
  by_cases star : word = ['*']
  · rw [if_pos star]
    exact ⟨fun _ => .inl star, fun _ => ⟨none, rfl⟩⟩
  · rw [if_neg star]
    by_cases numeral : isNumeral word = true
    · rw [if_pos numeral, readNumeral?]
      by_cases below : digitsValue 0 word < yearTokenLimit
      · rw [if_pos ⟨numeral, below⟩]
        exact ⟨fun _ => .inr ⟨numeral, below⟩, fun _ => ⟨_, rfl⟩⟩
      · rw [if_neg fun both => below both.2]
        exact ⟨by rintro ⟨_, ⟨⟩⟩, fun year => absurd (year.resolve_left star).2 below⟩
    · rw [if_neg numeral]
      exact ⟨by rintro ⟨_, ⟨⟩⟩, fun year => absurd (year.resolve_left star).1 numeral⟩

theorem IsYearWord.not_isBlank {word : List Char} (year : IsYearWord word) :
    word ≠ [] ∧ ∀ c ∈ word, isBlank c = false := by
  rcases year with rfl | ⟨numeral, -⟩
  · exact ⟨List.cons_ne_nil _ _, List.forall_mem_singleton.mpr rfl⟩
  · rw [isNumeral, Bool.and_eq_true, Bool.not_eq_true', List.isEmpty_eq_false_iff,
      List.all_eq_true] at numeral
    exact ⟨numeral.1, fun c member => not_isBlank_of_isDigit (numeral.2 c member)⟩

namespace Pattern

/-! ## Patterns -/

/-- A pattern whose fields keep to their domains and whose year is a year. -/
structure Canonical (pattern : Pattern) : Prop where
  fields : pattern.InDomains
  year : IsYearWord pattern.year.toList

/-- The words of the canonical form are cut apart again. -/
theorem words_written {pattern : Pattern} (year : IsYearWord pattern.year.toList) :
    words pattern.written.toList = pattern.writtenWords := by
  have solid : ∀ word ∈ pattern.writtenWords, word ≠ [] ∧ ∀ c ∈ word, isBlank c = false := by
    have field (constraint : Constraint) : constraint.writtenChars ≠ [] ∧
        ∀ c ∈ constraint.writtenChars, isBlank c = false :=
      ⟨constraint.writtenChars_ne_nil, constraint.not_isBlank_of_mem_writtenChars⟩
    simp only [writtenWords, List.forall_mem_cons]
    exact ⟨field _, field _, field _, field _, field _, year.not_isBlank, nofun⟩
  have cut : pieces isBlank (joined ' ' pattern.writtenWords) = pattern.writtenWords :=
    pieces_joined (by decide) (List.cons_ne_nil _ _) fun word member => (solid word member).2
  rw [words, written, String.toList_ofList, cut, List.filter_eq_self]
  intro word member
  rw [Bool.not_eq_true', List.isEmpty_eq_false_iff]
  exact (solid word member).1

/-- A pattern that something compiles to is canonical. -/
theorem canonical_of_compile {expression : String} {pattern : Pattern}
    (compiled : compile expression = .ok pattern) : pattern.Canonical := by
  refine ⟨inDomains_of_compile compiled, (exists_readYear_eq_ok_iff _).mp ?_⟩
  unfold compile ofWords at compiled
  split at compiled
  · rename_i minute hour monthDay month weekDay word _
    obtain ⟨year, year_read, compiled⟩ := exists_of_bind_eq_ok compiled
    simp only [bind_eq_ok_iff] at compiled
    obtain ⟨_, -, _, -, _, -, _, -, _, -, made⟩ := compiled
    cases made
    exact ⟨year, by rw [String.toList_ofList]; exact year_read⟩
  · cases compiled

/-- A canonical pattern is what its canonical form compiles to. -/
theorem Canonical.compile_written {pattern : Pattern} (canonical : pattern.Canonical) :
    compile pattern.written = .ok pattern := by
  obtain ⟨fields, year⟩ := canonical
  obtain ⟨_, year_read⟩ := (exists_readYear_eq_ok_iff _).mpr year
  rw [compile, words_written year]
  simp only [writtenWords, ofWords, year_read,
    Constraint.readConstraint_writtenChars fields.minutes,
    Constraint.readConstraint_writtenChars fields.hours,
    Constraint.readConstraint_writtenChars fields.monthDays,
    Constraint.readConstraint_writtenChars fields.months,
    Constraint.readConstraint_writtenChars fields.weekDays, String.ofList_toList]
  rfl

/-- **A pattern is what its canonical form compiles to exactly when it is canonical, and exactly
when anything compiles to it.**  So a compiled pattern that is stored is read back as itself, and
compiled patterns are told apart by their canonical forms. -/
theorem compile_written_iff (pattern : Pattern) :
    (compile pattern.written = .ok pattern ↔ pattern.Canonical) ∧
      ((∃ expression, compile expression = .ok pattern) ↔ pattern.Canonical) ∧
        ∀ expression, compile expression = .ok pattern →
          ofStored pattern.stored = .ok pattern ∧
            ∀ other_expression other, compile other_expression = .ok other →
              (pattern = other ↔ pattern.written = other.written) := by
  have image : (∃ expression, compile expression = .ok pattern) ↔ pattern.Canonical :=
    ⟨fun ⟨_, compiled⟩ => canonical_of_compile compiled,
      fun canonical => ⟨pattern.written, canonical.compile_written⟩⟩
  refine ⟨⟨canonical_of_compile, Canonical.compile_written⟩, image, ?_⟩
  intro expression compiled
  have again := (canonical_of_compile compiled).compile_written
  refine ⟨?_, fun other_expression other other_compiled => ⟨congrArg written, fun same => ?_⟩⟩
  · show (compile pattern.written).mapError StoredFault.refused = .ok pattern
    rw [again]
    rfl
  · have other_again := (canonical_of_compile other_compiled).compile_written
    rw [← same, again] at other_again
    exact Except.ok.inj other_again

/-- Names and steps are written as numbers, and the year as it stands. -/
example : (compile "*/20 12 * JAN MON 02030").toOption.map written =
    some "0,20,40 12 * 1 1 02030" := by
  decide +kernel

end Pattern

end Timetable
