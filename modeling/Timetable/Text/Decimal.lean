/-!
# Decimal numerals

A number is written with the fewest decimal digits, or with zeros in front up
to a width, and read back from ASCII digits alone: no sign, no separator, no
blank, and at least one digit.  Zeros in front are read and do not count.  What
is written is read back as the same number.
-/

namespace Timetable.Text

set_option autoImplicit false

/-! ## Writing -/

/-- The digit of a number below ten. -/
def digitChar (n : Nat) : Char := Char.ofNat (48 + n)

/-- The decimal digits of a number, without zeros in front. -/
def digits (n : Nat) : List Char :=
  if n < 10 then [digitChar n] else digits (n / 10) ++ [digitChar (n % 10)]

/-- The decimal digits of a number, with zeros in front up to `width`. -/
def padded (width n : Nat) : List Char :=
  List.replicate (width - (digits n).length) '0' ++ digits n

/-- A number as a text of its own. -/
def numeral (n : Nat) : String := String.ofList (digits n)

/-! ## Reading -/

/-- The number that a list of digits stands for, after the digits of `leading`. -/
def digitsValue (leading : Nat) (text : List Char) : Nat :=
  text.foldl (fun value c => 10 * value + (c.toNat - 48)) leading

/-- Whether a text is a numeral: one ASCII digit or more. -/
def isNumeral (text : List Char) : Bool := !text.isEmpty && text.all Char.isDigit

/-- The number that a numeral below `limit` stands for. -/
def readNumeral? (limit : Nat) (text : List Char) : Option Nat :=
  if isNumeral text ∧ digitsValue 0 text < limit then some (digitsValue 0 text) else none

/-! ## Reading what is written -/

theorem digitChar_isDigit {n : Nat} (below : n < 10) : (digitChar n).isDigit = true := by
  have all_digits : ∀ m : Fin 10, (digitChar m).isDigit = true := by decide
  exact all_digits ⟨n, below⟩

theorem digitChar_value {n : Nat} (below : n < 10) : (digitChar n).toNat - 48 = n := by
  have all_values : ∀ m : Fin 10, (digitChar m).toNat - 48 = m := by decide
  exact all_values ⟨n, below⟩

theorem digits_isDigit (n : Nat) : (digits n).all Char.isDigit = true := by
  induction n using Nat.strongRecOn with
  | _ n ih =>
    rw [digits]
    split
    · rename_i below
      simp [digitChar_isDigit below]
    · simp only [List.all_append, List.all_cons, List.all_nil, Bool.and_true, Bool.and_eq_true]
      exact ⟨ih _ (by omega), digitChar_isDigit (by omega)⟩

theorem digits_ne_nil (n : Nat) : digits n ≠ [] := by
  rw [digits]
  split <;> simp

/-- The digits of a number form a numeral. -/
theorem isNumeral_digits (n : Nat) : isNumeral (digits n) = true := by
  simp [isNumeral, digits_isDigit, digits_ne_nil]

/-- The digits of a number stand for it. -/
theorem digitsValue_digits (n : Nat) : digitsValue 0 (digits n) = n := by
  induction n using Nat.strongRecOn with
  | _ n ih =>
    rw [digits]
    split
    · rename_i below
      simp [digitsValue, digitChar_value below]
    · have high := ih (n / 10) (by omega)
      have low : (digitChar (n % 10)).toNat - 48 = n % 10 := digitChar_value (by omega)
      simp only [digitsValue, List.foldl_append, List.foldl_cons, List.foldl_nil, low] at high ⊢
      omega

/-- A number below the limit is read back from its digits. -/
theorem readNumeral?_digits {limit n : Nat} (below : n < limit) :
    readNumeral? limit (digits n) = some n := by
  simp [readNumeral?, isNumeral_digits, digitsValue_digits, below]

end Timetable.Text
