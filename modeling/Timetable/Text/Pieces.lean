/-!
# Cutting a text into pieces

A text is a list of characters.  It is cut at every character of a class, which
always gives at least one piece, or at the first occurrence of one character,
which gives the two sides or nothing.  Neither cut loses a character: the pieces
with the separators between them, and the two sides with the mark between them,
are the text again.
-/

namespace Timetable.Text

set_option autoImplicit false

/-! ## Every separator -/

/-- The pieces of a text between the characters that `separates` holds of. -/
def pieces (separates : Char → Bool) : List Char → List (List Char)
  | [] => [[]]
  | c :: rest =>
    match pieces separates rest with
    | [] => [[c]]
    | piece :: others => if separates c then [] :: piece :: others else (c :: piece) :: others

/-- There is always at least one piece. -/
theorem pieces_ne_nil (separates : Char → Bool) (text : List Char) :
    pieces separates text ≠ [] := by
  cases text with
  | nil => simp [pieces]
  | cons c rest =>
    simp only [pieces]
    split
    · simp
    · split <;> simp

/-- No separator is left in a piece. -/
theorem not_separates_of_mem_pieces (separates : Char → Bool) (text : List Char) :
    ∀ piece ∈ pieces separates text, ∀ c ∈ piece, separates c = false := by
  induction text with
  | nil => simp [pieces]
  | cons c rest ih =>
    simp only [pieces]
    split
    · rename_i empty
      exact absurd empty (pieces_ne_nil separates rest)
    · rename_i piece others rest_pieces
      rw [rest_pieces] at ih
      by_cases hc : separates c = true
      · simp only [hc, if_true]
        intro p member x x_member
        rcases List.mem_cons.mp member with rfl | member
        · simp at x_member
        · exact ih p member x x_member
      · simp only [hc]
        intro p member x x_member
        rcases List.mem_cons.mp member with rfl | member
        · rcases List.mem_cons.mp x_member with rfl | x_member
          · simpa using hc
          · exact ih piece List.mem_cons_self x x_member
        · exact ih p (List.mem_cons_of_mem _ member) x x_member

/-- The pieces one after the other, with `separator` between them. -/
def joined (separator : Char) : List (List Char) → List Char
  | [] => []
  | [piece] => piece
  | piece :: others => piece ++ separator :: joined separator others

/-! ## The first mark -/

/-- The two sides of the first `mark`, if there is one. -/
def cut? (mark : Char) : List Char → Option (List Char × List Char)
  | [] => none
  | c :: rest =>
    if c = mark then some ([], rest)
    else (cut? mark rest).map fun sides => (c :: sides.1, sides.2)

/-- Nothing is cut exactly when the mark does not occur. -/
theorem cut?_eq_none_iff (mark : Char) (text : List Char) :
    cut? mark text = none ↔ mark ∉ text := by
  induction text with
  | nil => simp [cut?]
  | cons c rest ih =>
    by_cases hc : c = mark
    · simp [cut?, hc]
    · simp [cut?, hc, ih, Ne.symm hc]

/-- A cut is at the mark, and at its first occurrence. -/
theorem cut?_eq_some_iff (mark : Char) (text left right : List Char) :
    cut? mark text = some (left, right) ↔ text = left ++ mark :: right ∧ mark ∉ left := by
  induction text generalizing left with
  | nil => simp [cut?]
  | cons c rest ih =>
    by_cases hc : c = mark
    · subst hc
      cases left with
      | nil => simp [cut?, eq_comm]
      | cons d left => simp only [cut?, if_true]; grind
    · cases left with
      | nil => simp [cut?, hc]
      | cons d left =>
        simp only [cut?, hc, if_false, Option.map_eq_some_iff, Prod.exists, Prod.mk.injEq,
          List.cons.injEq, List.cons_append, List.mem_cons, not_or]
        grind

end Timetable.Text
