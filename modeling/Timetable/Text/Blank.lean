import Timetable.Text.Pieces

/-!
# Blank characters

A character is blank when it has the Unicode property White_Space.  Blanks
separate the words of a text and are trimmed from the ends of an item; how many
there are, and which, makes no difference.
-/

namespace Timetable.Text

set_option autoImplicit false

/-- The closed ranges of the code points with the property White_Space. -/
def blankRanges : List (Nat × Nat) :=
  [(0x09, 0x0D), (0x20, 0x20), (0x85, 0x85), (0xA0, 0xA0), (0x1680, 0x1680), (0x2000, 0x200A),
   (0x2028, 0x2029), (0x202F, 0x202F), (0x205F, 0x205F), (0x3000, 0x3000)]

/-- Whether a code point lies in one of a list of closed ranges. -/
def inRanges (ranges : List (Nat × Nat)) (code : Nat) : Bool :=
  ranges.any fun range => range.1 ≤ code && code ≤ range.2

/-- Whether a character is blank. -/
def isBlank (c : Char) : Bool := inRanges blankRanges c.toNat

/-- Every character that core calls whitespace is blank. -/
theorem isBlank_of_isWhitespace (c : Char) (whitespace : c.isWhitespace = true) :
    isBlank c = true := by
  simp only [Char.isWhitespace, Bool.or_eq_true, decide_eq_true_eq] at whitespace
  rcases whitespace with ((rfl | rfl) | rfl) | rfl <;> decide

/-- A text without the blanks at its two ends. -/
def trim (text : List Char) : List Char :=
  ((text.dropWhile isBlank).reverse.dropWhile isBlank).reverse

/-- The words of a text: its longest stretches without a blank, in order. -/
def words (text : List Char) : List (List Char) :=
  (pieces isBlank text).filter fun piece => !piece.isEmpty

/-- No word is empty, and none holds a blank. -/
theorem word_of_mem_words (text word : List Char) (member : word ∈ words text) :
    word ≠ [] ∧ ∀ c ∈ word, isBlank c = false := by
  simp only [words, List.mem_filter] at member
  exact ⟨by simpa using member.2, not_separates_of_mem_pieces isBlank text word member.1⟩

end Timetable.Text
