/-
This file says which characters are blank and cuts a text into its tokens, the
maximal runs of characters that are not blank. Blank is the White_Space
property of the character standard: besides the ASCII blanks it covers the
next-line control, the no-break spaces, the typographic spaces and the line and
paragraph separators, but not the zero-width characters.
-/

import SicAssembler.Text.Split

namespace SicAssembler

/-- A range of code points, both ends included. -/
structure CodeRange where
  first : Nat
  last : Nat
deriving DecidableEq, Repr

/-- Whether a character's code point lies in the range. -/
def CodeRange.holds (range : CodeRange) (character : Char) : Bool :=
  range.first ≤ character.toNat && character.toNat ≤ range.last

/-- The code points with the White_Space property, in ascending order. -/
def blankRanges : List CodeRange :=
  [⟨0x09, 0x0D⟩, ⟨0x20, 0x20⟩, ⟨0x85, 0x85⟩, ⟨0xA0, 0xA0⟩, ⟨0x1680, 0x1680⟩, ⟨0x2000, 0x200A⟩,
    ⟨0x2028, 0x2029⟩, ⟨0x202F, 0x202F⟩, ⟨0x205F, 0x205F⟩, ⟨0x3000, 0x3000⟩]

/-- Whether a character separates tokens. -/
def isBlank (character : Char) : Bool :=
  blankRanges.any (·.holds character)

/-- The tokens of a text: its maximal runs of characters that are not blank. -/
def tokens (text : List Char) : List (List Char) :=
  (pieces isBlank text).filter fun piece => !piece.isEmpty

/-- A text without the blanks at its end. -/
def trimEnd (text : List Char) : List Char :=
  (text.reverse.dropWhile isBlank).reverse

/-- A text without the blanks at either end. -/
def trim (text : List Char) : List Char :=
  trimEnd (text.dropWhile isBlank)

/-! ### Tokens and blanks -/

@[simp]
theorem tokens_nil : tokens [] = [] := rfl

theorem tokens_cons_blank {character : Char} (text : List Char)
    (blank : isBlank character = true) : tokens (character :: text) = tokens text := by
  simp [tokens, pieces_cons_separator text blank]

/-- A token is never empty. -/
theorem ne_nil_of_mem_tokens {text token : List Char} (member : token ∈ tokens text) :
    token ≠ [] := by
  simp only [tokens, List.mem_filter] at member
  intro empty
  simp [empty] at member

/-- A token holds no blank. -/
theorem isBlank_eq_false_of_mem_tokens {text token : List Char} (member : token ∈ tokens text)
    {character : Char} (inside : character ∈ token) : isBlank character = false :=
  refused_of_mem_pieces token (List.mem_filter.mp member).1 character inside

end SicAssembler
