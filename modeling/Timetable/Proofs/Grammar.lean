import Timetable.Proofs.Domains
import Timetable.Proofs.Texts

/-!
# The grammar of a field

What a field may say is a grammar, apart from any reader: a token denotes a number,
the part of an item before its step spans from a low to a high end, and an item
stands for a stretch (`Domain.Denotes`, `Domain.Spans`, `Domain.Reads`).  The reader
of items accepts exactly this grammar (`Domain.readItem_eq_ok_iff`).

A field is read exactly when it has an item that is not blank and every such item is
in the grammar; its set then ascends and is the union of the stretches
(`Domain.read_iff_reads`).
-/

namespace Timetable

open Text

set_option autoImplicit false

/-- Two steps lead to a result exactly when the first leads to something from which the second leads
there. -/
theorem bind_eq_ok_iff {ε α β : Type} {first : Except ε α} {second : α → Except ε β} {result : β} :
    first >>= second = .ok result ↔
      ∃ intermediate, first = .ok intermediate ∧ second intermediate = .ok result := by
  refine ⟨exists_of_bind_eq_ok, ?_⟩
  rintro ⟨intermediate, rfl, rest⟩
  exact rest

/-! ## Numbers of a stretch -/

namespace Stretch

/-- The numbers of a stretch lie between its ends, a whole number of steps from the low one. -/
theorem mem_numbers_iff {stretch : Stretch} (ordered : stretch.low ≤ stretch.high) (n : Nat) :
    n ∈ stretch.numbers ↔
      stretch.low ≤ n ∧ n ≤ stretch.high ∧ stretch.step ∣ n - stretch.low := by
  constructor
  · intro member
    obtain ⟨from_low, to_high⟩ := bounds_of_mem_numbers member
    rw [numbers, List.mem_range'] at member
    obtain ⟨steps, -, rfl⟩ := member
    refine ⟨from_low, by omega, ?_⟩
    rw [Nat.add_sub_cancel_left]
    exact Nat.dvd_mul_right _ _
  · rintro ⟨from_low, to_high, steps, distance⟩
    rw [numbers, List.mem_range']
    rcases Nat.eq_zero_or_pos stretch.step with no_step | forwards
    · rw [no_step, Nat.zero_mul] at distance
      exact ⟨0, Nat.succ_pos _, by omega⟩
    · refine ⟨steps, ?_, by omega⟩
      apply Nat.lt_succ_of_le
      rw [Nat.le_div_iff_mul_le forwards, Nat.mul_comm, ← distance]
      omega

theorem numbers_ne_nil (stretch : Stretch) : stretch.numbers ≠ [] := by
  rw [numbers, ne_eq, List.range'_eq_nil_iff]
  exact Nat.succ_ne_zero _

end Stretch

namespace Domain

variable {domain : Domain}

/-! ## The grammar -/

/-- The number that a token denotes. -/
inductive Denotes (domain : Domain) (token : List Char) : Nat → Prop where
  /-- A name denotes its number. -/
  | name {n : Nat} (named : domain.named? (String.ofList token) = some n) : Denotes domain token n
  /-- A numeral below the limit that is no name denotes its value. -/
  | numeral (unnamed : domain.named? (String.ofList token) = none)
      (numeral : isNumeral token = true) (below : digitsValue 0 token < numberLimit) :
      Denotes domain token (digitsValue 0 token)

/-- The low and the high end of what stands before the step of an item; `stepped` says whether there
is a step. -/
inductive Spans (domain : Domain) (stepped : Bool) : List Char → Nat → Nat → Prop where
  /-- A star spans the domain. -/
  | star : Spans domain stepped ['*'] domain.least domain.greatest
  /-- Two tokens with a dash between them, the first dash there is, span from one to the other. -/
  | range {left right : List Char} {low high : Nat} (first_dash : '-' ∉ left)
      (denotes_low : domain.Denotes left low) (denotes_high : domain.Denotes right high)
      (ordered : low ≤ high) : Spans domain stepped (left ++ '-' :: right) low high
  /-- A token spans its number alone, and on to the greatest number when there is a step. -/
  | token {token : List Char} {n : Nat} (not_star : token ≠ ['*']) (no_dash : '-' ∉ token)
      (denotes : domain.Denotes token n) :
      Spans domain stepped token n (if stepped then domain.greatest else n)

/-- The stretch that an item stands for. -/
inductive Reads (domain : Domain) : List Char → Stretch → Prop where
  /-- Without a slash the step is one. -/
  | plain {item : List Char} {low high : Nat} (no_slash : '/' ∉ item)
      (spans : domain.Spans false item low high) (low_allowed : domain.Allows low)
      (high_allowed : domain.Allows high) : Reads domain item { low, high, step := 1 }
  /-- Behind the first slash stands the step, a numeral that is not zero. -/
  | stepped {base text : List Char} {low high : Nat} (first_slash : '/' ∉ base)
      (numeral : isNumeral text = true) (positive : 0 < digitsValue 0 text)
      (below : digitsValue 0 text < numberLimit) (spans : domain.Spans true base low high)
      (low_allowed : domain.Allows low) (high_allowed : domain.Allows high) :
      Reads domain (base ++ '/' :: text) { low, high, step := digitsValue 0 text }

/-! ## The reader accepts the grammar -/

theorem readNumeral?_eq_some_iff (limit : Nat) (text : List Char) (n : Nat) :
    readNumeral? limit text = some n ↔
      isNumeral text = true ∧ digitsValue 0 text < limit ∧ digitsValue 0 text = n := by
  rw [readNumeral?, Option.ite_none_right_eq_some, Option.some.injEq, and_assoc]

theorem readToken_eq_ok_iff (token : List Char) (n : Nat) :
    domain.readToken token = .ok n ↔ domain.Denotes token n := by
  rw [readToken]
  cases named : domain.named? (String.ofList token) with
  | some m =>
    constructor
    · intro read
      cases read
      exact .name named
    · rintro (again | ⟨unnamed, -, -⟩)
      · cases named.symm.trans again
        rfl
      · cases named.symm.trans unnamed
  | none =>
    cases numeral : readNumeral? numberLimit token with
    | some m =>
      obtain ⟨is_numeral, below, rfl⟩ := (readNumeral?_eq_some_iff _ _ _).mp numeral
      constructor
      · intro read
        cases read
        exact .numeral named is_numeral below
      · rintro (again | ⟨-, -, -⟩)
        · cases named.symm.trans again
        · rfl
    | none =>
      refine ⟨nofun, ?_⟩
      rintro (again | ⟨-, is_numeral, below⟩)
      · cases named.symm.trans again
      · have read := (readNumeral?_eq_some_iff numberLimit token _).mpr ⟨is_numeral, below, rfl⟩
        cases numeral.symm.trans read

theorem readStep_eq_ok_iff (text : List Char) (step : Nat) :
    domain.readStep text = .ok step ↔
      isNumeral text = true ∧ 0 < digitsValue 0 text ∧ digitsValue 0 text < numberLimit ∧
        digitsValue 0 text = step := by
  have numeral := readNumeral?_eq_some_iff numberLimit text
  rw [readStep]
  split
  · rename_i unread
    refine ⟨nofun, ?_⟩
    rintro ⟨is_numeral, -, below, -⟩
    cases unread.symm.trans ((numeral _).mpr ⟨is_numeral, below, rfl⟩)
  · rename_i zero
    obtain ⟨-, -, value⟩ := (numeral _).mp zero
    exact ⟨nofun, fun read => absurd read.2.1 (by omega)⟩
  · rename_i found not_zero read
    obtain ⟨is_numeral, below, rfl⟩ := (numeral _).mp read
    have positive : 0 < digitsValue 0 text := Nat.pos_of_ne_zero not_zero
    exact ⟨fun same => ⟨is_numeral, positive, below, Except.ok.inj same⟩,
      fun parts => congrArg _ parts.2.2.2⟩

/-- The ends of a star are those of the domain, and nothing else is read from it. -/
theorem spans_star_iff (stepped : Bool) (low high : Nat) :
    domain.Spans stepped ['*'] low high ↔ low = domain.least ∧ high = domain.greatest := by
  constructor
  · generalize written : ['*'] = base
    intro spans
    cases spans with
    | star => exact ⟨rfl, rfl⟩
    | range =>
      have dash : '-' ∈ ['*'] := by simp [written]
      exact absurd dash (by decide)
    | token not_star _ _ => exact absurd written.symm not_star
  · rintro ⟨rfl, rfl⟩
    exact .star

/-- Two tokens on the sides of the first dash span from the number of one to that of the other. -/
theorem spans_range_iff (stepped : Bool) {left right : List Char} (first_dash : '-' ∉ left)
    (low high : Nat) :
    domain.Spans stepped (left ++ '-' :: right) low high ↔
      domain.Denotes left low ∧ domain.Denotes right high ∧ low ≤ high := by
  constructor
  · generalize written : left ++ '-' :: right = base
    have cut : cut? '-' base = some (left, right) :=
      (cut?_eq_some_iff _ _ _ _).mpr ⟨written.symm, first_dash⟩
    intro spans
    cases spans with
    | star =>
      have no_dash : cut? '-' ['*'] = none := by decide
      cases cut.symm.trans no_dash
    | @range other_left other_right _ _ other_first denotes_low denotes_high ordered =>
      have other : cut? '-' (other_left ++ '-' :: other_right) = some (other_left, other_right) :=
        (cut?_eq_some_iff _ _ _ _).mpr ⟨rfl, other_first⟩
      cases cut.symm.trans other
      exact ⟨denotes_low, denotes_high, ordered⟩
    | token _ no_dash _ => exact absurd (by simp [← written]) no_dash
  · rintro ⟨denotes_low, denotes_high, ordered⟩
    exact .range first_dash denotes_low denotes_high ordered

/-- A token without a dash spans its number, and with a step the rest of the domain. -/
theorem spans_token_iff {stepped : Bool} {token : List Char} (not_star : token ≠ ['*'])
    (no_dash : '-' ∉ token) (low high : Nat) :
    domain.Spans stepped token low high ↔
      domain.Denotes token low ∧ high = if stepped then domain.greatest else low := by
  constructor
  · intro spans
    cases spans with
    | star => exact absurd rfl not_star
    | range => exact absurd (by simp) no_dash
    | token _ _ denotes => exact ⟨denotes, rfl⟩
  · rintro ⟨denotes, rfl⟩
    exact .token not_star no_dash denotes

theorem readEnds_eq_ok_iff (base : List Char) (stepped : Bool) (low high : Nat) :
    domain.readEnds base stepped = .ok (low, high) ↔ domain.Spans stepped base low high := by
  rw [readEnds]
  by_cases star : base = ['*']
  · rw [if_pos star, star, spans_star_iff, Except.ok.injEq, Prod.mk.injEq, eq_comm,
      eq_comm (a := domain.greatest)]
  · rw [if_neg star]
    cases sides : cut? '-' base with
    | some ends =>
      obtain ⟨left, right⟩ := ends
      obtain ⟨rfl, first_dash⟩ := (cut?_eq_some_iff _ _ _ _).mp sides
      simp only [spans_range_iff stepped first_dash, bind_eq_ok_iff, readToken_eq_ok_iff]
      constructor
      · rintro ⟨n, denotes_low, m, denotes_high, ends⟩
        split_ifs at ends with inverted
        cases ends
        exact ⟨denotes_low, denotes_high, Nat.le_of_not_lt inverted⟩
      · rintro ⟨denotes_low, denotes_high, ordered⟩
        refine ⟨low, denotes_low, high, denotes_high, ?_⟩
        rw [if_neg (Nat.not_lt_of_le ordered)]
    | none =>
      have no_dash := (cut?_eq_none_iff _ _).mp sides
      simp only [spans_token_iff star no_dash, bind_eq_ok_iff, readToken_eq_ok_iff]
      constructor
      · rintro ⟨n, denotes, ends⟩
        cases ends
        exact ⟨denotes, rfl⟩
      · rintro ⟨denotes, rfl⟩
        exact ⟨low, denotes, rfl⟩

theorem checkBound_eq_ok_iff (n : Nat) (checked : Unit) :
    domain.checkBound n = .ok checked ↔ domain.Allows n := by
  rw [checkBound]
  split_ifs with allowed
  · exact ⟨fun _ => allowed, fun _ => rfl⟩
  · exact ⟨by rintro ⟨⟩, fun here => absurd here allowed⟩

/-- A step was read when there is a first slash with a step behind it, and none was when there is no
slash. -/
theorem readParts_eq_ok_iff (item base : List Char) (step? : Option Nat) :
    domain.readParts item = .ok (base, step?) ↔
      '/' ∉ item ∧ base = item ∧ step? = none ∨
        ∃ text step, item = base ++ '/' :: text ∧ '/' ∉ base ∧
          domain.readStep text = .ok step ∧ step? = some step := by
  rw [readParts]
  cases sides : cut? '/' item with
  | some parts =>
    obtain ⟨before, text⟩ := parts
    obtain ⟨rfl, first_slash⟩ := (cut?_eq_some_iff _ _ _ _).mp sides
    constructor
    · intro read
      cases step_read : domain.readStep text with
      | error defect =>
        simp only [step_read] at read
        cases read
      | ok step =>
        simp only [step_read] at read
        cases read
        exact .inr ⟨text, step, rfl, first_slash, step_read, rfl⟩
    · rintro (⟨no_slash, -⟩ | ⟨other, step, same, first, step_read, rfl⟩)
      · exact absurd (by simp) no_slash
      · have cut := (cut?_eq_some_iff _ _ _ _).mpr ⟨same, first⟩
        cases sides.symm.trans cut
        simp only [step_read]
        rfl
  | none =>
    have no_slash := (cut?_eq_none_iff _ _).mp sides
    constructor
    · intro read
      cases read
      exact .inl ⟨no_slash, rfl, rfl⟩
    · rintro (⟨-, rfl, rfl⟩ | ⟨text, step, rfl, -⟩)
      · rfl
      · exact absurd (by simp) no_slash

/-- **An item is read exactly when the grammar gives it a stretch, and as that stretch.** -/
theorem readItem_eq_ok_iff (item : List Char) (stretch : Stretch) :
    domain.readItem item = .ok stretch ↔ domain.Reads item stretch := by
  obtain ⟨low, high, step⟩ := stretch
  rw [readItem_eq]
  simp only [bind_eq_ok_iff, checkBound_eq_ok_iff]
  constructor
  · rintro ⟨⟨base, step?⟩, parts, ⟨_, _⟩, ends, _, low_allowed, _, high_allowed, made⟩
    cases made
    rw [readEnds_eq_ok_iff] at ends
    rcases (readParts_eq_ok_iff _ _ _).mp parts with
      ⟨no_slash, rfl, rfl⟩ | ⟨text, step, rfl, first_slash, step_read, rfl⟩
    · exact .plain no_slash ends low_allowed high_allowed
    · obtain ⟨numeral, positive, below, rfl⟩ := (readStep_eq_ok_iff _ _).mp step_read
      exact .stepped first_slash numeral positive below ends low_allowed high_allowed
  · intro reads
    cases reads with
    | plain no_slash spans low_allowed high_allowed =>
      have parts : domain.readParts item = .ok (item, none) :=
        (readParts_eq_ok_iff _ _ _).mpr (.inl ⟨no_slash, rfl, rfl⟩)
      exact ⟨_, parts, (low, high), (readEnds_eq_ok_iff _ _ _ _).mpr spans, (), low_allowed, (),
        high_allowed, rfl⟩
    | @stepped base text _ _ first_slash numeral positive below spans low_allowed high_allowed =>
      have step_read : domain.readStep text = .ok (digitsValue 0 text) :=
        (readStep_eq_ok_iff _ _).mpr ⟨numeral, positive, below, rfl⟩
      have parts : domain.readParts (base ++ '/' :: text) = .ok (base, some (digitsValue 0 text)) :=
        (readParts_eq_ok_iff _ _ _).mpr (.inr ⟨text, _, rfl, first_slash, step_read, rfl⟩)
      exact ⟨_, parts, (low, high), (readEnds_eq_ok_iff _ _ _ _).mpr spans, (), low_allowed, (),
        high_allowed, rfl⟩

/-! ## Lists of items -/

/-- A list is read exactly when each entry is. -/
theorem exists_mapM_eq_ok_iff {ε α β : Type} {read : α → Except ε β} {entries : List α} :
    (∃ results, entries.mapM read = .ok results) ↔
      ∀ entry ∈ entries, ∃ result, read entry = .ok result := by
  induction entries with
  | nil => exact ⟨fun _ => nofun, fun _ => ⟨[], rfl⟩⟩
  | cons entry others ih =>
    rw [List.forall_mem_cons, ← ih]
    simp only [List.mapM_cons, bind_eq_ok_iff]
    constructor
    · rintro ⟨results, first, entry_read, later, others_read, -⟩
      exact ⟨⟨first, entry_read⟩, later, others_read⟩
    · rintro ⟨⟨first, entry_read⟩, later, others_read⟩
      exact ⟨first :: later, first, entry_read, later, others_read, rfl⟩

/-- What an entry of a list is read as is among the results of the list. -/
theorem mem_of_mapM_eq_ok {ε α β : Type} {read : α → Except ε β} {entries : List α}
    {results : List β} (mapped : entries.mapM read = .ok results) {entry : α} {result : β}
    (member : entry ∈ entries) (entry_read : read entry = .ok result) : result ∈ results := by
  induction entries generalizing results with
  | nil => cases member
  | cons first others ih =>
    rw [List.mapM_cons] at mapped
    obtain ⟨first_result, first_read, rest⟩ := exists_of_bind_eq_ok mapped
    obtain ⟨later, others_read, same⟩ := exists_of_bind_eq_ok rest
    cases same
    rcases List.mem_cons.mp member with rfl | member
    · cases entry_read.symm.trans first_read
      exact List.mem_cons_self
    · exact List.mem_cons_of_mem _ (ih others_read member)

/-! ## Fields -/

/-- An item of a field is a piece between commas that is not blank. -/
def ItemOf (text item : List Char) : Prop :=
  item ∈ pieces (· = ',') text ∧ ∃ c ∈ item, isBlank c = false

/-- The items of a field are read trimmed and in capitals. -/
theorem mem_itemsOf_iff (text capitals : List Char) :
    capitals ∈ itemsOf text ↔ ∃ item, ItemOf text item ∧ upper (trim item) = capitals := by
  have not_blank (item : List Char) :
      (!(trim item).isEmpty) = true ↔ ∃ c ∈ item, isBlank c = false := by
    rw [Bool.not_eq_true', ← Bool.not_eq_true, List.isEmpty_iff, trim_eq_nil_iff]
    simp only [not_forall, Bool.not_eq_true, exists_prop]
  rw [itemsOf, List.mem_map]
  simp only [List.mem_filter, List.mem_map]
  constructor
  · rintro ⟨trimmed, ⟨⟨item, member, rfl⟩, solid⟩, rfl⟩
    exact ⟨item, ⟨member, (not_blank item).mp solid⟩, rfl⟩
  · rintro ⟨item, ⟨member, solid⟩, rfl⟩
    exact ⟨trim item, ⟨⟨item, member, rfl⟩, (not_blank item).mpr solid⟩, rfl⟩

end Domain

namespace ValueSet

/-- There is a set of the numbers of a list exactly when the list has any. -/
theorem ofList?_eq_none_iff (numbers : List Nat) : ofList? numbers = none ↔ numbers = [] := by
  have empty : ascendingOf numbers = [] ↔ numbers = [] := by
    simp only [List.eq_nil_iff_forall_not_mem, mem_ascendingOf]
  rw [← empty, ofList?]
  split
  · rename_i form
    exact ⟨fun _ => form, fun _ => rfl⟩
  · rename_i first others form
    refine ⟨by rintro ⟨⟩, fun none_left => ?_⟩
    cases form.symm.trans none_left

/-- A number of a list is enough for a set. -/
theorem exists_ofList?_eq_some {numbers : List Nat} {n : Nat} (member : n ∈ numbers) :
    ∃ set, ofList? numbers = some set := by
  cases made : ofList? numbers with
  | none =>
    rw [(ofList?_eq_none_iff _).mp made] at member
    cases member
  | some set => exact ⟨set, rfl⟩

end ValueSet

namespace Domain

variable {domain : Domain}

/-- A field is read as a set exactly when its items are read and have numbers, which make up the
set. -/
theorem readChars_eq_ok_iff (text : List Char) (set : ValueSet) :
    domain.readChars text = .ok set ↔
      ∃ stretches, (itemsOf text).mapM domain.readItem = .ok stretches ∧
        ValueSet.ofList? (stretches.flatMap Stretch.numbers) = some set := by
  rw [readChars, bind_eq_ok_iff]
  refine exists_congr fun stretches => and_congr_right fun _ => ?_
  cases ValueSet.ofList? (stretches.flatMap Stretch.numbers) with
  | none => exact ⟨nofun, nofun⟩
  | some made => simp only [Except.ok.injEq, Option.some.injEq]

/-- An end that the domain allows is not above the other end of its span. -/
theorem Spans.ordered {stepped : Bool} {base : List Char} {low high : Nat}
    (spans : domain.Spans stepped base low high) (low_allowed : domain.Allows low) :
    low ≤ high := by
  cases spans with
  | star => exact low_allowed.2
  | range _ _ _ ordered => exact ordered
  | token _ _ _ =>
    split_ifs
    · exact low_allowed.2
    · exact Nat.le_refl _

theorem Reads.ordered {item : List Char} {stretch : Stretch} (reads : domain.Reads item stretch) :
    stretch.low ≤ stretch.high := by
  cases reads with
  | plain _ spans low_allowed _ => exact spans.ordered low_allowed
  | stepped _ _ _ _ spans low_allowed _ => exact spans.ordered low_allowed

theorem exists_stretches_iff (text : List Char) :
    (∃ stretches, (itemsOf text).mapM domain.readItem = .ok stretches) ↔
      ∀ item, ItemOf text item → ∃ stretch, domain.Reads (upper (trim item)) stretch := by
  rw [exists_mapM_eq_ok_iff]
  simp only [mem_itemsOf_iff, readItem_eq_ok_iff]
  constructor
  · exact fun all item said => all _ ⟨item, said, rfl⟩
  · rintro all capitals ⟨item, said, rfl⟩
    exact all item said

/-- The stretches that are read are those that the grammar gives the items. -/
theorem mem_stretches_iff {text : List Char} {stretches : List Stretch}
    (mapped : (itemsOf text).mapM domain.readItem = .ok stretches) (stretch : Stretch) :
    stretch ∈ stretches ↔
      ∃ item, ItemOf text item ∧ domain.Reads (upper (trim item)) stretch := by
  constructor
  · intro member
    obtain ⟨capitals, said, read⟩ := exists_of_mem_of_mapM_eq_ok mapped stretch member
    obtain ⟨item, item_said, rfl⟩ := (mem_itemsOf_iff _ _).mp said
    exact ⟨item, item_said, (readItem_eq_ok_iff _ _).mp read⟩
  · rintro ⟨item, said, reads⟩
    exact mem_of_mapM_eq_ok mapped ((mem_itemsOf_iff _ _).mpr ⟨item, said, rfl⟩)
      ((readItem_eq_ok_iff _ _).mpr reads)

/-- A field is read when it says something and all that it says is in the grammar, and only then. -/
theorem exists_read_iff (domain : Domain) (expression : String) :
    (∃ set, domain.read expression = .ok set) ↔
      (∃ item, ItemOf expression.toList item) ∧
        ∀ item, ItemOf expression.toList item →
          ∃ stretch, domain.Reads (upper (trim item)) stretch := by
  constructor
  · rintro ⟨set, read⟩
    obtain ⟨stretches, mapped, made⟩ := (readChars_eq_ok_iff _ _).mp read
    refine ⟨?_, (exists_stretches_iff _).mp ⟨stretches, mapped⟩⟩
    obtain ⟨n, member⟩ := List.exists_mem_of_ne_nil _ set.nonempty
    obtain ⟨stretch, stretch_member, -⟩ :=
      List.mem_flatMap.mp ((ValueSet.mem_of_ofList? made n).mp member)
    obtain ⟨item, said, -⟩ := (mem_stretches_iff mapped stretch).mp stretch_member
    exact ⟨item, said⟩
  · rintro ⟨⟨item, said⟩, all_read⟩
    obtain ⟨stretches, mapped⟩ := (exists_stretches_iff _).mpr all_read
    obtain ⟨stretch, reads⟩ := all_read item said
    -- An item that is read has a number at least, so the union is not empty.
    obtain ⟨n, n_member⟩ := List.exists_mem_of_ne_nil _ stretch.numbers_ne_nil
    have given : n ∈ stretches.flatMap Stretch.numbers :=
      List.mem_flatMap.mpr
        ⟨stretch, (mem_stretches_iff mapped stretch).mpr ⟨item, said, reads⟩, n_member⟩
    obtain ⟨set, made⟩ := ValueSet.exists_ofList?_eq_some given
    exact ⟨set, (readChars_eq_ok_iff _ _).mpr ⟨stretches, mapped, made⟩⟩

/-- The numbers of a field that was read are those of the stretches of its items. -/
theorem mem_iff_of_read {expression : String} {set : ValueSet}
    (read : domain.read expression = .ok set) (n : Nat) :
    n ∈ set ↔ ∃ item stretch, ItemOf expression.toList item ∧
      domain.Reads (upper (trim item)) stretch ∧
        stretch.low ≤ n ∧ n ≤ stretch.high ∧ stretch.step ∣ n - stretch.low := by
  obtain ⟨stretches, mapped, made⟩ := (readChars_eq_ok_iff _ _).mp read
  rw [ValueSet.mem_of_ofList? made n, List.mem_flatMap]
  constructor
  · rintro ⟨stretch, stretch_member, n_member⟩
    obtain ⟨item, said, reads⟩ := (mem_stretches_iff mapped stretch).mp stretch_member
    exact ⟨item, stretch, said, reads, (Stretch.mem_numbers_iff reads.ordered n).mp n_member⟩
  · rintro ⟨item, stretch, said, reads, place⟩
    exact ⟨stretch, (mem_stretches_iff mapped stretch).mpr ⟨item, said, reads⟩,
      (Stretch.mem_numbers_iff reads.ordered n).mpr place⟩

/-- **A field is read exactly when it says something and all that it says is in the grammar; what
it is read as ascends and is the union of the stretches of its items.** -/
theorem read_iff_reads (domain : Domain) (expression : String) :
    ((∃ set, domain.read expression = .ok set) ↔
        (∃ item, ItemOf expression.toList item) ∧
          ∀ item, ItemOf expression.toList item →
            ∃ stretch, domain.Reads (upper (trim item)) stretch) ∧
      ∀ set, domain.read expression = .ok set →
        set.toList.Pairwise (· < ·) ∧
          ∀ n, n ∈ set ↔ ∃ item stretch, ItemOf expression.toList item ∧
            domain.Reads (upper (trim item)) stretch ∧
              stretch.low ≤ n ∧ n ≤ stretch.high ∧ stretch.step ∣ n - stretch.low :=
  ⟨exists_read_iff domain expression, fun set read => ⟨set.ascending, mem_iff_of_read read⟩⟩

/-- Names in any case, a range with a step, blanks and an item that says nothing. -/
example : (Field.month.domain.read "jan, Mar-MAY/2 ,,12").toOption.map ValueSet.toList =
    some [1, 3, 5, 12] := by
  decide +kernel

end Domain

end Timetable
