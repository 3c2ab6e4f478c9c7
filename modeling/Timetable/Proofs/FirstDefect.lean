import Timetable.Proofs.Canonical
import Timetable.Proofs.Words

/-!
# The language of expressions and the first defect

An expression is read for its words alone.  Six words stand for a pattern when the sixth may
stand for the year and each of the others is a star or a list of items of its field
(`Pattern.StandsFor`); nothing else compiles.  An expression that does not compile is refused for
one defect, the first that there is: the number of words comes first, then the year, then the
fields in order, and in a field its items in order (`Pattern.FirstDefect`).

The relations speak of words and items, and the reader of a pattern of neither: that the two
agree is `Pattern.compile_language`.
-/

namespace Timetable

open Text

set_option autoImplicit false

/-! ## The first failure -/

/-- Two steps fail exactly when the first does, or leads to something with which the second does. -/
theorem bind_eq_error_iff {ε α β : Type} {first : Except ε α} {second : α → Except ε β}
    {error : ε} :
    first >>= second = .error error ↔
      first = .error error ∨
        ∃ intermediate, first = .ok intermediate ∧ second intermediate = .error error := by
  cases first with
  | error fault =>
    constructor
    · rintro ⟨⟩
      exact .inl rfl
    · rintro (⟨⟨⟩⟩ | ⟨_, ⟨⟩, _⟩)
      rfl
  | ok intermediate =>
    constructor
    · exact fun failed => .inr ⟨intermediate, rfl, failed⟩
    · rintro (⟨⟨⟩⟩ | ⟨_, ⟨⟩, failed⟩)
      exact failed

section FirstFails

variable {ε α β : Type} {read : α → Except ε β}

/-- The error of the first entry of a list that cannot be read: those before it can. -/
def FirstFails (read : α → Except ε β) (entries : List α) (error : ε) : Prop :=
  ∃ passed entry others, entries = passed ++ entry :: others ∧
    (∀ earlier ∈ passed, ∃ result, read earlier = .ok result) ∧ read entry = .error error

theorem not_firstFails_nil (error : ε) : ¬ FirstFails read [] error := by
  rintro ⟨passed, entry, others, entries, -⟩
  exact absurd entries.symm (by simp)

theorem firstFails_cons_iff (entry : α) (others : List α) (error : ε) :
    FirstFails read (entry :: others) error ↔
      read entry = .error error ∨
        (∃ result, read entry = .ok result) ∧ FirstFails read others error := by
  constructor
  · rintro ⟨passed, failing, behind, entries, passed_read, failed⟩
    cases passed with
    | nil =>
      cases entries
      exact .inl failed
    | cons first passed =>
      cases entries
      rw [List.forall_mem_cons] at passed_read
      exact .inr ⟨passed_read.1, passed, failing, behind, rfl, passed_read.2, failed⟩
  · rintro (failed | ⟨entry_read, passed, failing, behind, rfl, passed_read, failed⟩)
    · exact ⟨[], entry, others, rfl, nofun, failed⟩
    · exact ⟨entry :: passed, failing, behind, rfl,
        List.forall_mem_cons.mpr ⟨entry_read, passed_read⟩, failed⟩

/-- A list is refused for the error of the first entry that cannot be read. -/
theorem mapM_eq_error_iff (entries : List α) (error : ε) :
    entries.mapM read = .error error ↔ FirstFails read entries error := by
  induction entries with
  | nil => exact ⟨nofun, fun fails => absurd fails (not_firstFails_nil error)⟩
  | cons entry others ih =>
    simp only [List.mapM_cons, bind_eq_error_iff, firstFails_cons_iff, ← ih]
    refine or_congr_right ⟨?_, ?_⟩
    · rintro ⟨result, entry_read, failed | ⟨_, -, ⟨⟩⟩⟩
      exact ⟨⟨result, entry_read⟩, failed⟩
    · rintro ⟨⟨result, entry_read⟩, failed⟩
      exact ⟨result, entry_read, .inl failed⟩

end FirstFails

/-! ## Fields -/

namespace Domain

variable {domain : Domain}

/-- The defect of a field that is not read. -/
inductive RefusedFor (domain : Domain) (text : List Char) : Defect → Prop where
  /-- An item cannot be read, and those before it can. -/
  | item {defect : Defect} (fails : FirstFails domain.readItem (itemsOf text) defect) :
      RefusedFor domain text defect
  /-- There is no item. -/
  | silent (no_items : itemsOf text = []) :
      RefusedFor domain text (.noValues domain.field (String.ofList text))

/-- Items that are read have a number at least, if there are any items. -/
theorem ofList?_eq_none_of_mapM {items : List (List Char)} {stretches : List Stretch}
    (mapped : items.mapM domain.readItem = .ok stretches) :
    ValueSet.ofList? (stretches.flatMap Stretch.numbers) = none ↔ items = [] := by
  rw [ValueSet.ofList?_eq_none_iff, List.flatMap_eq_nil_iff]
  constructor
  · intro no_numbers
    cases items with
    | nil => rfl
    | cons item others =>
      rw [List.mapM_cons, bind_eq_ok_iff] at mapped
      obtain ⟨stretch, -, rest⟩ := mapped
      obtain ⟨later, -, ⟨⟩⟩ := bind_eq_ok_iff.mp rest
      exact absurd (no_numbers stretch List.mem_cons_self) stretch.numbers_ne_nil
  · rintro rfl
    cases mapped
    nofun

theorem readChars_eq_error_iff (text : List Char) (defect : Defect) :
    domain.readChars text = .error defect ↔ domain.RefusedFor text defect := by
  rw [readChars, bind_eq_error_iff, mapM_eq_error_iff]
  constructor
  · rintro (fails | ⟨stretches, mapped, refused⟩)
    · exact .item fails
    · cases made : ValueSet.ofList? (stretches.flatMap Stretch.numbers) with
      | none =>
        simp only [made] at refused
        cases refused
        exact .silent ((ofList?_eq_none_of_mapM mapped).mp made)
      | some set =>
        simp only [made] at refused
        cases refused
  · rintro (fails | no_items)
    · exact .inl fails
    · rw [no_items]
      exact .inr ⟨[], rfl, rfl⟩

/-- The items of a field are the same in capitals. -/
theorem itemsOf_capitals (text : List Char) : itemsOf (capitals text) = itemsOf text := by
  have commas : ∀ c : Char, decide (c.toUpper = ',') = decide (c = ',') :=
    @eq_of_letters _ (fun c => decide (c = ',')) (by decide)
  have trimmed : trim ∘ capitals = capitals ∘ trim := funext trim_capitals
  have read : upper ∘ capitals = upper := funext upper_capitals
  have kept : (fun item : List Char => !item.isEmpty) ∘ capitals = fun item => !item.isEmpty := by
    funext item
    simp [capitals]
  rw [itemsOf, pieces_capitals commas, List.map_map, trimmed, ← List.map_map, List.filter_map, kept,
    List.map_map, read, itemsOf]

/-- The case of ASCII letters makes no difference to a set. -/
theorem readChars_capitals (text : List Char) (set : ValueSet) :
    domain.readChars (capitals text) = .ok set ↔ domain.readChars text = .ok set := by
  rw [readChars_eq_ok_iff, readChars_eq_ok_iff, itemsOf_capitals]

end Domain

namespace Field

/-- The fields in the order in which an expression gives them. -/
def inOrder : List Field := [minute, hour, monthDay, month, weekDay]

/-- What a word of an expression demands in its field. -/
inductive Demands (field : Field) : List Char → Constraint → Prop where
  /-- A star demands nothing. -/
  | star : Demands field ['*'] .any
  /-- A list of items demands a member of its set. -/
  | items {word : List Char} {set : ValueSet} (not_star : word ≠ ['*'])
      (read : field.domain.read (String.ofList word) = .ok set) : Demands field word (.only set)

variable {field : Field}

theorem readConstraint_eq_ok_iff (word : List Char) (constraint : Constraint) :
    field.readConstraint word = .ok constraint ↔ field.Demands word constraint := by
  rw [readConstraint]
  by_cases star : word = ['*']
  · rw [if_pos star, star]
    constructor
    · rintro ⟨⟩
      exact .star
    · rintro (_ | ⟨not_star, -⟩)
      · rfl
      · exact absurd rfl not_star
  · rw [if_neg star, map_eq_pure_bind, bind_eq_ok_iff]
    constructor
    · rintro ⟨set, read, ⟨⟩⟩
      exact .items star (by rwa [Domain.read, String.toList_ofList])
    · rintro (_ | ⟨_, read⟩)
      · exact absurd rfl star
      · rw [Domain.read, String.toList_ofList] at read
        exact ⟨_, read, rfl⟩

theorem readConstraint_eq_error_iff (word : List Char) (defect : Defect) :
    field.readConstraint word = .error defect ↔
      word ≠ ['*'] ∧ field.domain.RefusedFor word defect := by
  rw [readConstraint]
  by_cases star : word = ['*']
  · rw [if_pos star]
    exact ⟨by rintro ⟨⟩, fun refused => absurd star refused.1⟩
  · rw [if_neg star, map_eq_pure_bind, bind_eq_error_iff, Domain.readChars_eq_error_iff]
    refine ⟨?_, fun refused => .inl refused.2⟩
    rintro (refused | ⟨_, _, ⟨⟩⟩)
    exact ⟨star, refused⟩

/-- A word is accepted in a field when it is a star or a list of items of the field. -/
theorem exists_demands_iff (word : List Char) :
    (∃ constraint, field.Demands word constraint) ↔
      word = ['*'] ∨ ∃ set, field.domain.read (String.ofList word) = .ok set := by
  constructor
  · rintro ⟨_, _ | ⟨_, read⟩⟩
    · exact .inl rfl
    · exact .inr ⟨_, read⟩
  · intro accepted
    by_cases star : word = ['*']
    · exact ⟨.any, star ▸ .star⟩
    · obtain ⟨set, read⟩ := accepted.resolve_left star
      exact ⟨.only set, .items star read⟩

/-- The case of ASCII letters makes no difference to what a word demands. -/
theorem demands_capitals (word : List Char) (constraint : Constraint) :
    field.Demands (capitals word) constraint ↔ field.Demands word constraint := by
  have star : capitals word = ['*'] ↔ word = ['*'] :=
    capitals_eq_iff_of_no_letter (List.forall_mem_singleton.mpr rfl) word
  rw [← readConstraint_eq_ok_iff, ← readConstraint_eq_ok_iff, readConstraint, readConstraint]
  by_cases said : word = ['*']
  · rw [if_pos said, if_pos (star.mpr said)]
  · rw [if_neg said, if_neg (mt star.mp said), map_eq_pure_bind, map_eq_pure_bind, bind_eq_ok_iff,
      bind_eq_ok_iff]
    simp only [Domain.readChars_capitals]

end Field

/-! ## Years -/

theorem IsYearWord.no_letter {word : List Char} (year : IsYearWord word) :
    ∀ c ∈ word, c.isAlpha = false := by
  rcases year with rfl | ⟨numeral, -⟩
  · exact List.forall_mem_singleton.mpr rfl
  · rw [isNumeral, Bool.and_eq_true, List.all_eq_true] at numeral
    have no_letter : ∀ n : Fin 10, (digitChar n).isAlpha = false := by decide
    intro c member
    obtain ⟨n, rfl⟩ := exists_digitChar_eq (numeral.2 c member)
    exact no_letter n

namespace Pattern

/-! ## Patterns -/

/-- The constraint of a pattern for a field. -/
def constraint (pattern : Pattern) : Field → Constraint
  | .minute => pattern.minutes
  | .hour => pattern.hours
  | .monthDay => pattern.monthDays
  | .month => pattern.months
  | .weekDay => pattern.weekDays

/-- The pattern that words stand for: the last of six for the year, the others for the fields. -/
inductive StandsFor (said : List (List Char)) (pattern : Pattern) : Prop where
  | six {fields : List (List Char)} {year : List Char} (words : said = fields ++ [year])
      (five : fields.length = 5) (is_year : IsYearWord year)
      (kept : pattern.year = String.ofList year)
      (demands : ∀ entry ∈ Field.inOrder.zip fields,
        entry.1.Demands entry.2 (pattern.constraint entry.1))

/-- The first defect of words that stand for no pattern. -/
inductive FirstDefect (said : List (List Char)) : Defect → Prop where
  /-- There are not six words. -/
  | count (not_six : said.length ≠ 6) : FirstDefect said (.fieldCount said.length)
  /-- There are six, and the last is no year. -/
  | year {fields : List (List Char)} {year : List Char} {defect : Defect}
      (words : said = fields ++ [year]) (five : fields.length = 5)
      (refused : readYear year = .error defect) : FirstDefect said defect
  /-- The last is a year, and the fields before the one that is refused are accepted. -/
  | field {fields : List (List Char)} {year : List Char} {passed others : List (Field × List Char)}
      {field : Field} {word : List Char} {defect : Defect} (words : said = fields ++ [year])
      (five : fields.length = 5) (is_year : IsYearWord year)
      (place : Field.inOrder.zip fields = passed ++ (field, word) :: others)
      (accepted : ∀ entry ∈ passed, entry.2 = ['*'] ∨
        ∃ set, entry.1.domain.read (String.ofList entry.2) = .ok set)
      (not_star : word ≠ ['*']) (refused : field.domain.RefusedFor word defect) :
      FirstDefect said defect

/-- Six words are five for the fields and one for the year. -/
theorem exists_fields_of_length {said : List (List Char)} (six : said.length = 6) :
    ∃ fields year, said = fields ++ [year] ∧ fields.length = 5 := by
  have nonempty : said ≠ [] := List.ne_nil_of_length_eq_add_one six
  refine ⟨said.dropLast, said.getLast nonempty, (List.dropLast_append_getLast nonempty).symm, ?_⟩
  rw [List.length_dropLast, six]

theorem ofWords_of_length_ne {said : List (List Char)} (not_six : said.length ≠ 6) :
    ofWords said = .error (.fieldCount said.length) := by
  unfold ofWords
  split
  · exact absurd rfl not_six
  · rfl

/-- Six words are read as the pattern of what they demand. -/
theorem ofWords_append_eq_ok_iff {fields : List (List Char)} (five : fields.length = 5)
    (year : List Char) (pattern : Pattern) :
    ofWords (fields ++ [year]) = .ok pattern ↔
      IsYearWord year ∧ pattern.year = String.ofList year ∧
        ∀ entry ∈ Field.inOrder.zip fields,
          entry.1.Demands entry.2 (pattern.constraint entry.1) := by
  match fields, five with
  | [minute, hour, monthDay, month, weekDay], five =>
    simp only [ofWords, List.cons_append, List.nil_append, bind_eq_ok_iff,
      Field.readConstraint_eq_ok_iff, ← exists_readYear_eq_ok_iff, Field.inOrder,
      List.zip_cons_cons, List.zip_nil_left, List.forall_mem_cons]
    constructor
    · rintro ⟨read, year_read, _, minutes, _, hours, _, monthDays, _, months, _, weekDays, ⟨⟩⟩
      exact ⟨⟨read, year_read⟩, rfl, minutes, hours, monthDays, months, weekDays,
        List.forall_mem_nil _⟩
    · rintro ⟨⟨read, year_read⟩, kept, minutes, hours, monthDays, months, weekDays, -⟩
      refine ⟨read, year_read, _, minutes, _, hours, _, monthDays, _, months, _, weekDays, ?_⟩
      rw [← kept]
      rfl

/-- Words are read as a pattern exactly when they stand for it. -/
theorem ofWords_eq_ok_iff (said : List (List Char)) (pattern : Pattern) :
    ofWords said = .ok pattern ↔ StandsFor said pattern := by
  constructor
  · intro made
    by_cases six : said.length = 6
    · obtain ⟨fields, year, rfl, five⟩ := exists_fields_of_length six
      obtain ⟨is_year, kept, demands⟩ := (ofWords_append_eq_ok_iff five year pattern).mp made
      exact .six rfl five is_year kept demands
    · rw [ofWords_of_length_ne six] at made
      cases made
  · rintro ⟨rfl, five, is_year, kept, demands⟩
    exact (ofWords_append_eq_ok_iff five _ pattern).mpr ⟨is_year, kept, demands⟩

/-- Words stand for a pattern when there are six, of which the last is a year and the others are
accepted in their fields. -/
theorem exists_standsFor_iff (said : List (List Char)) :
    (∃ pattern, StandsFor said pattern) ↔
      ∃ fields year, said = fields ++ [year] ∧ fields.length = 5 ∧ IsYearWord year ∧
        ∀ entry ∈ Field.inOrder.zip fields,
          entry.2 = ['*'] ∨ ∃ set, entry.1.domain.read (String.ofList entry.2) = .ok set := by
  constructor
  · rintro ⟨pattern, words, five, is_year, -, demands⟩
    exact ⟨_, _, words, five, is_year, fun entry member =>
      (Field.exists_demands_iff entry.2).mp ⟨_, demands entry member⟩⟩
  · rintro ⟨fields, year, words, five, is_year, accepted⟩
    match fields, five with
    | [minute, hour, monthDay, month, weekDay], five =>
      simp only [Field.inOrder, List.zip_cons_cons, List.zip_nil_left, List.forall_mem_cons,
        ← Field.exists_demands_iff] at accepted
      obtain ⟨⟨minutes, minute⟩, ⟨hours, hour⟩, ⟨monthDays, monthDay⟩, ⟨months, month⟩,
        ⟨weekDays, weekDay⟩, -⟩ := accepted
      refine ⟨⟨minutes, hours, monthDays, months, weekDays, String.ofList year⟩,
        .six words five is_year rfl ?_⟩
      simp only [Field.inOrder, List.zip_cons_cons, List.zip_nil_left, List.forall_mem_cons]
      exact ⟨minute, hour, monthDay, month, weekDay, List.forall_mem_nil _⟩

/-- Six words are refused for the year, or for the first field that is refused. -/
theorem ofWords_append_eq_error_iff {fields : List (List Char)} (five : fields.length = 5)
    (year : List Char) (defect : Defect) :
    ofWords (fields ++ [year]) = .error defect ↔
      readYear year = .error defect ∨
        IsYearWord year ∧
          FirstFails (fun entry : Field × List Char => entry.1.readConstraint entry.2)
            (Field.inOrder.zip fields) defect := by
  match fields, five with
  | [minute, hour, monthDay, month, weekDay], five =>
    -- The checks one after the other are the first failure of a list, an entry at a time.
    simp only [ofWords, List.cons_append, List.nil_append, bind_eq_error_iff, Field.inOrder,
      List.zip_cons_cons, List.zip_nil_left, firstFails_cons_iff, not_firstFails_nil,
      exists_and_right, exists_readYear_eq_ok_iff, reduceCtorEq, and_false, exists_false, or_false]

/-- Words are refused for their first defect. -/
theorem ofWords_eq_error_iff (said : List (List Char)) (defect : Defect) :
    ofWords said = .error defect ↔ FirstDefect said defect := by
  have accepts (entry : Field × List Char) :
      (∃ constraint, entry.1.readConstraint entry.2 = .ok constraint) ↔
        entry.2 = ['*'] ∨ ∃ set, entry.1.domain.read (String.ofList entry.2) = .ok set := by
    simp only [Field.readConstraint_eq_ok_iff, Field.exists_demands_iff]
  constructor
  · intro refused
    by_cases six : said.length = 6
    · obtain ⟨fields, year, rfl, five⟩ := exists_fields_of_length six
      rcases (ofWords_append_eq_error_iff five year defect).mp refused with no_year |
        ⟨is_year, passed, ⟨field, word⟩, others, place, accepted, failed⟩
      · exact .year rfl five no_year
      · obtain ⟨not_star, reason⟩ := (Field.readConstraint_eq_error_iff _ _).mp failed
        have before := fun entry member => (accepts entry).mp (accepted entry member)
        exact .field rfl five is_year place before not_star reason
    · rw [ofWords_of_length_ne six] at refused
      cases refused
      exact .count six
  · rintro (not_six | ⟨rfl, five, no_year⟩ |
      ⟨rfl, five, is_year, place, accepted, not_star, reason⟩)
    · exact ofWords_of_length_ne not_six
    · exact (ofWords_append_eq_error_iff five _ _).mpr (.inl no_year)
    · refine (ofWords_append_eq_error_iff five _ _).mpr (.inr ⟨is_year, _, _, _, place, ?_, ?_⟩)
      · exact fun entry member => (accepts entry).mpr (accepted entry member)
      · exact (Field.readConstraint_eq_error_iff _ _).mpr ⟨not_star, reason⟩

/-! ## The case of letters -/

/-- The case of ASCII letters makes no difference to the pattern. -/
theorem standsFor_capitals (said : List (List Char)) (pattern : Pattern) :
    StandsFor (said.map capitals) pattern ↔ StandsFor said pattern := by
  have entries (fields : List (List Char)) :
      (∀ entry ∈ Field.inOrder.zip (fields.map capitals),
          entry.1.Demands entry.2 (pattern.constraint entry.1)) ↔
        ∀ entry ∈ Field.inOrder.zip fields,
          entry.1.Demands entry.2 (pattern.constraint entry.1) := by
    rw [List.zip_map_right, List.forall_mem_map]
    simp only [Prod.map_fst, Prod.map_snd, id_eq, Field.demands_capitals]
  constructor
  · rintro ⟨words, five, is_year, kept, demands⟩
    rename_i _ year
    obtain ⟨fields, last, rfl, rfl, same⟩ := List.map_eq_append_iff.mp words
    obtain ⟨written, rfl, capital⟩ := List.map_eq_singleton_iff.mp same
    -- A year has no letters: what has it for its capitals is the year itself.
    rw [capitals_eq_iff_of_no_letter is_year.no_letter] at capital
    exact .six (congrArg (fields ++ [·]) capital) (by rwa [List.length_map] at five) is_year kept
      ((entries fields).mp demands)
  · rintro ⟨rfl, five, is_year, kept, demands⟩
    rename_i fields year
    have words : (fields ++ [year]).map capitals = fields.map capitals ++ [year] := by
      rw [List.map_append, List.map_singleton, capitals_eq_self is_year.no_letter]
    exact .six words (by rwa [List.length_map]) is_year kept ((entries fields).mpr demands)

/-- **Exactly the language of six fields compiles, and what does not is refused for its first
defect.**  An expression is read for its words, as blanks part them; letters may be capital or
small. -/
theorem compile_language (expression : String) :
    ∃ said, Spaced expression.toList said ∧
      (∀ other : String, Spaced other.toList said → compile other = compile expression) ∧
      ((∃ pattern, compile expression = .ok pattern) ↔
        ∃ fields year, said = fields ++ [year] ∧ fields.length = 5 ∧ IsYearWord year ∧
          ∀ entry ∈ Field.inOrder.zip fields,
            entry.2 = ['*'] ∨ ∃ set, entry.1.domain.read (String.ofList entry.2) = .ok set) ∧
      (∀ pattern, compile expression = .ok pattern ↔ StandsFor said pattern) ∧
      (∀ defect, compile expression = .error defect ↔ FirstDefect said defect) ∧
      ∀ other : String, capitals other.toList = capitals expression.toList →
        ∀ pattern, compile other = .ok pattern ↔ compile expression = .ok pattern := by
  have stands (text : String) (pattern : Pattern) :
      compile text = .ok pattern ↔ StandsFor ((words text.toList).map capitals) pattern := by
    rw [compile, ofWords_eq_ok_iff, standsFor_capitals]
  refine ⟨words expression.toList, (words_eq_iff _ _).mp rfl, ?_, ?_, ?_, ?_, ?_⟩
  · intro other spaced
    rw [compile, spaced.words_eq, compile]
  · rw [← exists_standsFor_iff]
    simp only [compile, ofWords_eq_ok_iff]
  · exact fun pattern => ofWords_eq_ok_iff _ pattern
  · exact fun defect => ofWords_eq_error_iff _ defect
  · intro other same pattern
    rw [stands, stands, ← words_capitals, ← words_capitals, same]

/-- The year is no year, which is told before the minute that is out of bounds. -/
example : compile "60 * 5-1 * * 20x5" = .error (.badYear "20x5") := rfl

end Pattern

end Timetable
