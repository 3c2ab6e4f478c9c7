import Timetable.Text.CaseTable

/-!
# Upper case

The upper case of a text, by the full Unicode mapping: one character may become
several, so a text may grow.  On ASCII it changes the small letters and nothing
else.
-/

namespace Timetable.Text

set_option autoImplicit false

/-- The code point that a run maps `code` to, if `code` is a member of the run. -/
def mappedInRun? (code : Nat) (run : Nat × Nat × Nat × Nat) : Option Nat :=
  let (first, last, step, target) := run
  if first ≤ code ∧ code ≤ last ∧ (code - first) % step = 0 then some (target + (code - first))
  else none

/-- The upper case of one character. -/
def upperChar (c : Char) : List Char :=
  if c.toNat < 128 then [c.toUpper]
  else
    match caseExpansions.lookup c.toNat with
    | some codes => codes.map Char.ofNat
    | none =>
      match caseRuns.findSome? (mappedInRun? c.toNat) with
      | some code => [Char.ofNat code]
      | none => [c]

/-- The upper case of a text. -/
def upper (text : List Char) : List Char := text.flatMap upperChar

@[simp] theorem upper_nil : upper [] = [] := rfl

@[simp] theorem upper_append (left right : List Char) :
    upper (left ++ right) = upper left ++ upper right := List.flatMap_append

/-- An ASCII character has the upper case that core gives it. -/
theorem upperChar_ascii {c : Char} (ascii : c.toNat < 128) : upperChar c = [c.toUpper] := by
  simp [upperChar, ascii]

end Timetable.Text
