import Timetable.Proofs.Texts

/-!
# Words and blanks, capitals and small letters

A text consists of words when they stand in it in order, with blanks between them, and perhaps
blanks before the first and behind the last (`Spaced`).  Every text consists of exactly one
list of words, and that is the list it is cut into (`words_eq_iff`).  So how many blanks there
are, and which and where, makes no difference to the words.

Neither a blank nor a comma is a letter, so a text is cut and trimmed alike whichever way its ASCII
letters are written: in capitals it has the same words in capitals (`words_capitals`), and it is the
same once the whole of it is put in capitals (`upper_capitals`).
-/

namespace Timetable.Text

set_option autoImplicit false

/-! ## Words -/

/-- A text consists of words, with blanks between them and perhaps around them. -/
inductive Spaced : List Char → List (List Char) → Prop where
  /-- Blanks alone hold no word. -/
  | blanks {text : List Char} (blank : ∀ c ∈ text, isBlank c = true) : Spaced text []
  /-- A word may have blanks before it, and the rest of the text, if there is any, begins with a
  blank. -/
  | word (blanks : List Char) {word rest : List Char} {others : List (List Char)}
      (blank : ∀ c ∈ blanks, isBlank c = true) (nonempty : word ≠ [])
      (solid : ∀ c ∈ word, isBlank c = false) (apart : ∀ c ∈ rest.head?, isBlank c = true)
      (spaced : Spaced rest others) : Spaced (blanks ++ word ++ rest) (word :: others)

/-- A blank in front makes no difference to the words. -/
theorem words_cons_of_blank {c : Char} (blank : isBlank c = true) (text : List Char) :
    words (c :: text) = words text := by
  have cut : pieces isBlank (c :: text) = [] :: pieces isBlank text :=
    pieces_append_cons (List.forall_mem_nil _) blank text
  rw [words, cut, List.filter_cons_of_neg (by decide), words]

theorem words_append_of_blank {blanks : List Char} (blank : ∀ c ∈ blanks, isBlank c = true)
    (text : List Char) : words (blanks ++ text) = words text := by
  induction blanks with
  | nil => rfl
  | cons c blanks ih =>
    rw [List.forall_mem_cons] at blank
    rw [List.cons_append, words_cons_of_blank blank.1, ih blank.2]

/-- A word in front is the first, if a blank stands behind it, or nothing. -/
theorem words_append_of_solid {word rest : List Char} (nonempty : word ≠ [])
    (solid : ∀ c ∈ word, isBlank c = false) (apart : ∀ c ∈ rest.head?, isBlank c = true) :
    words (word ++ rest) = word :: words rest := by
  have kept : word.isEmpty = false := by simpa using nonempty
  cases rest with
  | nil => simp [words, pieces_of_not_separates solid, pieces, kept]
  | cons c rest =>
    have blank : isBlank c = true := apart c rfl
    rw [words_cons_of_blank blank]
    simp [words, pieces_append_cons solid blank, kept]

theorem Spaced.words_eq {text : List Char} {said : List (List Char)} (spaced : Spaced text said) :
    words text = said := by
  induction spaced with
  | @blanks text blank =>
    have same := words_append_of_blank blank []
    rw [List.append_nil] at same
    rw [same]
    rfl
  | word _ blank nonempty solid apart spaced ih =>
    rw [List.append_assoc, words_append_of_blank blank, words_append_of_solid nonempty solid apart,
      ih]

/-- Every text consists of words. -/
theorem exists_spaced (text : List Char) : ∃ said, Spaced text said := by
  induction text with
  | nil => exact ⟨[], .blanks nofun⟩
  | cons c text ih =>
    obtain ⟨said, spaced⟩ := ih
    cases blank : isBlank c with
    | true =>
      -- A blank more in front of whatever comes first.
      cases spaced with
      | blanks all_blank => exact ⟨[], .blanks (List.forall_mem_cons.mpr ⟨blank, all_blank⟩)⟩
      | word blanks before nonempty solid apart spaced =>
        exact ⟨_, .word (c :: blanks) (List.forall_mem_cons.mpr ⟨blank, before⟩) nonempty solid
          apart spaced⟩
    | false =>
      have alone : ∀ d ∈ [c], isBlank d = false := List.forall_mem_singleton.mpr blank
      by_cases apart : ∀ d ∈ text.head?, isBlank d = true
      · exact ⟨[c] :: said, .word [] nofun (List.cons_ne_nil _ _) alone apart spaced⟩
      · -- The word that the text begins with is longer by a character.
        cases spaced with
        | blanks all_blank =>
          exact absurd (fun d first => all_blank d (List.mem_of_mem_head? first)) apart
        | @word blanks word _ others before nonempty solid behind spaced =>
          cases blanks with
          | nil =>
            have longer : ∀ d ∈ c :: word, isBlank d = false :=
              List.forall_mem_cons.mpr ⟨blank, solid⟩
            exact ⟨(c :: word) :: others,
              .word [] nofun (List.cons_ne_nil _ _) longer behind spaced⟩
          | cons d blanks =>
            refine absurd ?_ apart
            rintro _ ⟨⟩
            exact before d List.mem_cons_self

/-- **A text is cut into the words that it consists of.** -/
theorem words_eq_iff (text : List Char) (said : List (List Char)) :
    words text = said ↔ Spaced text said := by
  refine ⟨?_, Spaced.words_eq⟩
  rintro rfl
  obtain ⟨said, spaced⟩ := exists_spaced text
  rw [spaced.words_eq]
  exact spaced

/-! ## Capitals -/

/-- A text with capitals in place of the small ASCII letters. -/
def capitals (text : List Char) : List Char := text.map Char.toUpper

/-- A character is its own capital, unless it is a small ASCII letter. -/
theorem toUpper_eq_self_or (c : Char) :
    c.toUpper = c ∨ ∃ n : Fin 26, c = Char.ofNat (97 + n) := by
  by_cases small : 97 ≤ c.toNat ∧ c.toNat ≤ 122
  · refine .inr ⟨⟨c.toNat - 97, by omega⟩, ?_⟩
    rw [Nat.add_sub_cancel' small.1, Char.ofNat_toNat]
  · exact .inl (dif_neg small)

/-- What holds of a character and of its capital for the small letters holds of all. -/
theorem eq_of_letters {α : Type} {read : Char → α}
    (letters : ∀ n : Fin 26, read (Char.ofNat (97 + n)).toUpper = read (Char.ofNat (97 + n)))
    (c : Char) : read c.toUpper = read c := by
  rcases toUpper_eq_self_or c with same | ⟨n, rfl⟩
  · rw [same]
  · exact letters n

theorem isBlank_toUpper (c : Char) : isBlank c.toUpper = isBlank c :=
  eq_of_letters (by decide) c

theorem upperChar_toUpper (c : Char) : upperChar c.toUpper = upperChar c :=
  eq_of_letters (by decide) c

theorem pieces_capitals {separates : Char → Bool}
    (no_letter : ∀ c : Char, separates c.toUpper = separates c) (text : List Char) :
    pieces separates (capitals text) = (pieces separates text).map capitals := by
  induction text with
  | nil => rfl
  | cons c rest ih =>
    change pieces separates (c.toUpper :: capitals rest) = _
    simp only [pieces, ih, no_letter]
    cases pieces separates rest with
    | nil => rfl
    | cons piece others =>
      simp only [List.map_cons]
      split <;> rfl

theorem trim_capitals (text : List Char) : trim (capitals text) = capitals (trim text) := by
  have same : isBlank ∘ Char.toUpper = isBlank := funext isBlank_toUpper
  rw [trim, trim, capitals, List.dropWhile_map, same, ← List.map_reverse, List.dropWhile_map, same,
    ← List.map_reverse, capitals]

theorem upper_capitals (text : List Char) : upper (capitals text) = upper text := by
  have same : (fun c : Char => upperChar c.toUpper) = upperChar := funext upperChar_toUpper
  rw [upper, capitals, List.flatMap_map, same, upper]

/-- The words of a text in capitals are its words in capitals. -/
theorem words_capitals (text : List Char) : words (capitals text) = (words text).map capitals := by
  rw [words, pieces_capitals isBlank_toUpper, List.filter_map, words]
  congr 2
  funext piece
  simp [capitals]

theorem isAlpha_toUpper (c : Char) : c.toUpper.isAlpha = c.isAlpha :=
  eq_of_letters (by decide) c

/-- A text has no letters when it has none in capitals. -/
theorem no_letter_capitals_iff (text : List Char) :
    (∀ c ∈ capitals text, c.isAlpha = false) ↔ ∀ c ∈ text, c.isAlpha = false := by
  rw [capitals, List.forall_mem_map]
  simp only [isAlpha_toUpper]

/-- A text without letters is its own capitals. -/
theorem capitals_eq_self {text : List Char} (no_letter : ∀ c ∈ text, c.isAlpha = false) :
    capitals text = text := by
  have letters : ∀ n : Fin 26, (Char.ofNat (97 + n)).isAlpha = true := by decide
  have each : ∀ c ∈ text, c.toUpper = id c := by
    intro c member
    rcases toUpper_eq_self_or c with same | ⟨n, rfl⟩
    · exact same
    · cases (letters n).symm.trans (no_letter _ member)
  rw [capitals, List.map_congr_left each, List.map_id]

/-- A text without letters is the only one with its capitals. -/
theorem capitals_eq_iff_of_no_letter {word : List Char} (no_letter : ∀ c ∈ word, c.isAlpha = false)
    (text : List Char) : capitals text = word ↔ text = word := by
  constructor
  · rintro rfl
    exact (capitals_eq_self ((no_letter_capitals_iff text).mp no_letter)).symm
  · rintro rfl
    exact capitals_eq_self no_letter

end Timetable.Text
