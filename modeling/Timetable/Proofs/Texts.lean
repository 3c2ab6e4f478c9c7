import Mathlib.Data.List.TakeWhile
import Timetable.Text.Blank
import Timetable.Text.Decimal
import Timetable.Text.UpperCase

/-!
# Texts that are cut and joined

Cutting a text at the characters of a class undoes joining it: pieces that hold none
of them, joined with one of them in between, are what the joined text is cut into
(`pieces_joined`).  A text is trimmed to nothing exactly when it is blank, and what
holds no blank stays as it is.

The digits of a number go through all this unharmed.  They hold no blank and no
separator, and they have no other upper case.
-/

namespace Timetable.Text

set_option autoImplicit false

/-! ## Joining and cutting -/

theorem pieces_of_not_separates {separates : Char → Bool} {piece : List Char}
    (solid : ∀ c ∈ piece, separates c = false) : pieces separates piece = [piece] := by
  induction piece with
  | nil => rfl
  | cons c rest ih =>
    rw [List.forall_mem_cons] at solid
    simp [pieces, ih solid.2, solid.1]

/-- A text is cut at a separator into what stands before it and what stands behind it. -/
theorem pieces_append_separator {separates : Char → Bool} {separator : Char}
    (separator_separates : separates separator = true) (left right : List Char) :
    pieces separates (left ++ separator :: right) =
      pieces separates left ++ pieces separates right := by
  induction left with
  | nil =>
    cases cut : pieces separates right with
    | nil => exact absurd cut (pieces_ne_nil separates right)
    | cons first others =>
      simp only [List.nil_append, List.cons_append, pieces, cut, if_pos separator_separates]
  | cons c left ih =>
    cases cut : pieces separates left with
    | nil => exact absurd cut (pieces_ne_nil separates left)
    | cons first others =>
      simp only [List.cons_append, pieces, ih, cut]
      split_ifs <;> rfl

theorem pieces_append_cons {separates : Char → Bool} {piece : List Char} {separator : Char}
    (solid : ∀ c ∈ piece, separates c = false) (separator_separates : separates separator = true)
    (rest : List Char) :
    pieces separates (piece ++ separator :: rest) = piece :: pieces separates rest := by
  rw [pieces_append_separator separator_separates, pieces_of_not_separates solid]
  rfl

/-- **Pieces that were joined are cut apart again.** -/
theorem pieces_joined {separates : Char → Bool} {separator : Char} {parts : List (List Char)}
    (separator_separates : separates separator = true) (nonempty : parts ≠ [])
    (solid : ∀ part ∈ parts, ∀ c ∈ part, separates c = false) :
    pieces separates (joined separator parts) = parts := by
  fun_induction joined separator parts with
  | case1 => exact absurd rfl nonempty
  | case2 piece => exact pieces_of_not_separates (solid piece List.mem_cons_self)
  | case3 piece others others_nonempty ih =>
    rw [List.forall_mem_cons] at solid
    rw [pieces_append_cons solid.1 separator_separates, ih others_nonempty solid.2]

/-- A character of a joined text is the separator or belongs to a part. -/
theorem mem_joined {separator c : Char} {parts : List (List Char)}
    (member : c ∈ joined separator parts) : c = separator ∨ ∃ part ∈ parts, c ∈ part := by
  fun_induction joined separator parts with
  | case1 => cases member
  | case2 piece => exact .inr ⟨piece, List.mem_cons_self, member⟩
  | case3 piece others others_nonempty ih =>
    rcases List.mem_append.mp member with here | member
    · exact .inr ⟨piece, List.mem_cons_self, here⟩
    · rcases List.mem_cons.mp member with rfl | member
      · exact .inl rfl
      · rcases ih member with same | ⟨part, part_member, there⟩
        · exact .inl same
        · exact .inr ⟨part, List.mem_cons_of_mem _ part_member, there⟩

/-- A text that is joined from parts that are not empty is not empty. -/
theorem joined_ne_nil {separator : Char} {parts : List (List Char)} (nonempty : parts ≠ [])
    (solid : ∀ part ∈ parts, part ≠ []) : joined separator parts ≠ [] := by
  fun_cases joined separator parts with
  | case1 => exact absurd rfl nonempty
  | case2 piece => exact solid piece List.mem_cons_self
  | case3 piece others others_nonempty => simp

/-! ## Trimming -/

/-- A text is trimmed to nothing exactly when every character of it is blank. -/
theorem trim_eq_nil_iff (text : List Char) : trim text = [] ↔ ∀ c ∈ text, isBlank c = true := by
  rw [trim, List.reverse_eq_nil_iff, List.dropWhile_eq_nil_iff]
  simp only [List.mem_reverse]
  constructor
  · intro blank c member
    rw [← List.takeWhile_append_dropWhile (p := isBlank) (l := text), List.mem_append] at member
    rcases member with front | behind
    · exact List.mem_takeWhile_imp front
    · exact blank c behind
  · exact fun blank c member => blank c ((List.dropWhile_suffix isBlank).mem member)

/-- A text without a blank is not changed by trimming. -/
theorem trim_of_not_blank {text : List Char} (solid : ∀ c ∈ text, isBlank c = false) :
    trim text = text := by
  have kept (part : List Char) (part_solid : ∀ c ∈ part, isBlank c = false) :
      part.dropWhile isBlank = part := by
    rw [List.dropWhile_eq_self_iff]
    intro _
    rw [part_solid _ (List.getElem_mem _)]
    exact Bool.false_ne_true
  rw [trim, kept text solid, kept, List.reverse_reverse]
  exact fun c member => solid c (List.mem_reverse.mp member)

/-! ## Digits -/

/-- Every digit is that of a number below ten. -/
theorem exists_digitChar_eq {c : Char} (digit : c.isDigit = true) :
    ∃ n : Fin 10, digitChar n = c := by
  rw [Char.isDigit, Bool.and_eq_true, decide_eq_true_iff, decide_eq_true_iff] at digit
  have from_zero : 48 ≤ c.toNat := digit.1
  have to_nine : c.toNat ≤ 57 := digit.2
  refine ⟨⟨c.toNat - 48, by omega⟩, ?_⟩
  rw [digitChar, Nat.add_sub_cancel' from_zero, Char.ofNat_toNat]

theorem not_isBlank_of_isDigit {c : Char} (digit : c.isDigit = true) : isBlank c = false := by
  have all_digits : ∀ n : Fin 10, isBlank (digitChar n) = false := by decide
  obtain ⟨n, rfl⟩ := exists_digitChar_eq digit
  exact all_digits n

theorem upperChar_of_isDigit {c : Char} (digit : c.isDigit = true) : upperChar c = [c] := by
  have all_digits : ∀ n : Fin 10, upperChar (digitChar n) = [digitChar n] := by decide
  obtain ⟨n, rfl⟩ := exists_digitChar_eq digit
  exact all_digits n

/-- Digits are their own upper case. -/
theorem upper_of_isDigit {text : List Char} (all_digits : ∀ c ∈ text, c.isDigit = true) :
    upper text = text := by
  induction text with
  | nil => rfl
  | cons c rest ih =>
    rw [List.forall_mem_cons] at all_digits
    rw [upper, List.flatMap_cons, upperChar_of_isDigit all_digits.1, ← upper, ih all_digits.2]
    rfl

theorem isDigit_of_mem_digits {n : Nat} : ∀ c ∈ digits n, c.isDigit = true :=
  List.all_eq_true.mp (digits_isDigit n)

end Timetable.Text
