/-
This file cuts a text at its separators. Every reader of the assembler, be it
of source lines, of tokens in a line or of fields in a record, is a cut at some
class of characters, so the cut is defined once and its laws are stated once:
no piece holds a separator, a text without separators is one piece, and the
first piece of a text reaches to its first separator.
-/

namespace SicAssembler

/-- Put a character in front of the first piece. -/
def extendFirst (character : Char) : List (List Char) → List (List Char)
  | [] => [[character]]
  | piece :: rest => (character :: piece) :: rest

/-- The pieces of a text between the characters that `separator` accepts. There is always at
least one piece, and pieces may be empty. -/
def pieces (separator : Char → Bool) (text : List Char) : List (List Char) :=
  text.foldr
    (fun character found =>
      if separator character then [] :: found else extendFirst character found)
    [[]]

/-! ### What one character does to the pieces -/

@[simp]
theorem pieces_nil (separator : Char → Bool) : pieces separator [] = [[]] := rfl

theorem pieces_cons (separator : Char → Bool) (character : Char) (text : List Char) :
    pieces separator (character :: text) =
      if separator character then [] :: pieces separator text
      else extendFirst character (pieces separator text) := rfl

theorem pieces_cons_separator {separator : Char → Bool} {character : Char} (text : List Char)
    (accepted : separator character = true) :
    pieces separator (character :: text) = [] :: pieces separator text := by
  rw [pieces_cons, if_pos accepted]

theorem pieces_cons_other {separator : Char → Bool} {character : Char} (text : List Char)
    (refused : separator character = false) :
    pieces separator (character :: text) = extendFirst character (pieces separator text) := by
  rw [pieces_cons, if_neg (by simp [refused])]

theorem pieces_ne_nil (separator : Char → Bool) (text : List Char) :
    pieces separator text ≠ [] := by
  induction text with
  | nil => simp
  | cons character text inductionHypothesis =>
    rw [pieces_cons]
    split
    · simp
    · cases found : pieces separator text with
      | nil => exact absurd found inductionHypothesis
      | cons piece rest => simp [extendFirst]

/-! ### What the pieces hold -/

/-- A text without separators is one piece. -/
theorem pieces_of_refused {separator : Char → Bool} {text : List Char}
    (refused : ∀ character ∈ text, separator character = false) :
    pieces separator text = [text] := by
  induction text with
  | nil => rfl
  | cons character text inductionHypothesis =>
    rw [pieces_cons_other text (refused character (by simp)),
      inductionHypothesis fun other member => refused other (by simp [member])]
    rfl

/-- The first piece of a text reaches to its first separator. -/
theorem pieces_append_separator {separator : Char → Bool} {piece : List Char} {character : Char}
    (refused : ∀ other ∈ piece, separator other = false) (accepted : separator character = true)
    (rest : List Char) :
    pieces separator (piece ++ character :: rest) = piece :: pieces separator rest := by
  induction piece with
  | nil => exact pieces_cons_separator rest accepted
  | cons first piece inductionHypothesis =>
    rw [List.cons_append, pieces_cons_other _ (refused first (by simp)),
      inductionHypothesis fun other member => refused other (by simp [member])]
    rfl

/-- No piece holds a separator. -/
theorem refused_of_mem_pieces {separator : Char → Bool} {text : List Char} :
    ∀ piece ∈ pieces separator text, ∀ character ∈ piece, separator character = false := by
  induction text with
  | nil => simp
  | cons first text inductionHypothesis =>
    intro piece member character inside
    rw [pieces_cons] at member
    split at member
    · rcases List.mem_cons.mp member with rfl | later
      · simp at inside
      · exact inductionHypothesis piece later character inside
    · next refused =>
      cases found : pieces separator text with
      | nil => exact absurd found (pieces_ne_nil separator text)
      | cons head rest =>
        rw [found] at member inductionHypothesis
        rcases List.mem_cons.mp member with rfl | later
        · rcases List.mem_cons.mp inside with rfl | deeper
          · simpa using refused
          · exact inductionHypothesis head (by simp) character deeper
        · exact inductionHypothesis piece (by simp [later]) character inside

end SicAssembler
