/-
This file defines patterns over characters and the way they match. A pattern is
tried at the start of a text. Of the ways in which it can match, the first in
order of preference counts: a repetition prefers to take more characters, and
an optional part prefers to be present. Parts of the text are captured under
names.
-/

namespace SicAssembler

/-- A pattern over characters whose captured parts have names in `Name`. -/
inductive Pattern (Name : Type) where
  /-- One character that the class accepts. -/
  | one (accepts : Char → Bool)
  /-- As many characters of the class as the rest of the pattern allows, perhaps none. -/
  | many (accepts : Char → Bool)
  /-- One pattern after the other. -/
  | sequence (first second : Pattern Name)
  /-- The pattern if the rest then matches, nothing otherwise. -/
  | optional (pattern : Pattern Name)
  /-- The pattern, and what it matched is captured. -/
  | capture (name : Name) (pattern : Pattern Name)

namespace Pattern

variable {Name Result : Type}

/-- At least one character of the class. -/
def atLeastOne (accepts : Char → Bool) : Pattern Name :=
  sequence (one accepts) (many accepts)

/-- Run `next` behind the longest run of accepted characters after which it succeeds. -/
def matchMany (accepts : Char → Bool) (next : List Char → Option Result) :
    List Char → Option Result
  | [] => next []
  | character :: rest =>
    if accepts character then
      (matchMany accepts next rest).or (next (character :: rest))
    else next (character :: rest)

/-- The part of `text` that was taken when `rest` is left of it. -/
def taken (text rest : List Char) : List Char :=
  text.take (text.length - rest.length)

/-- Match a pattern at the start of a text and hand the rest and the captured parts to
`next`; the most preferred way for which it succeeds counts. -/
def matchThen : Pattern Name → List Char → List (Name × List Char) →
    (List Char → List (Name × List Char) → Option Result) → Option Result
  | one _, [], _, _ => none
  | one accepts, character :: rest, captured, next =>
    if accepts character then next rest captured else none
  | many accepts, text, captured, next =>
    matchMany accepts (fun rest => next rest captured) text
  | sequence first second, text, captured, next =>
    matchThen first text captured fun rest found => matchThen second rest found next
  | optional pattern, text, captured, next =>
    (matchThen pattern text captured next).or (next text captured)
  | capture name pattern, text, captured, next =>
    matchThen pattern text captured fun rest found =>
      next rest ((name, taken text rest) :: found)

/-- The parts that a pattern captures at the start of a text, if it matches there. -/
def captures? (pattern : Pattern Name) (text : List Char) : Option (List (Name × List Char)) :=
  pattern.matchThen text [] fun _ captured => some captured

end Pattern

end SicAssembler
