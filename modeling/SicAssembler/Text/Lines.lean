/-
This file splits a text into lines. A line feed ends a line, and one carriage
return directly before it belongs to the line end. What follows the last line
feed is a line of its own unless it is empty, and it keeps a carriage return at
its end; a carriage return anywhere else is an ordinary character. For readers
to whom the line ends matter, a text is also split into lines that keep them.
-/

import SicAssembler.Text.Split

namespace SicAssembler

/-- A text without one carriage return at its end. -/
def dropReturn (text : List Char) : List Char :=
  if text.getLast? = some '\r' then text.dropLast else text

/-- The lines whose pieces between line feeds are given: each piece but the last was ended by a
line feed. -/
def linesOfPieces : List (List Char) → List (List Char)
  | [] => []
  | [last] => if last.isEmpty then [] else [last]
  | piece :: next :: rest => dropReturn piece :: linesOfPieces (next :: rest)

/-- The lines of a text. -/
def lines (text : List Char) : List (List Char) :=
  linesOfPieces (pieces (· = '\n') text)

/-- The lines of a string. -/
def linesOf (text : String) : List String :=
  (lines text.toList).map String.ofList

@[simp]
theorem lines_nil : lines [] = [] := rfl

/-! ### Lines with their ends -/

/-- The given pieces, each but the last followed by a line feed. The last is left out if it is
empty. -/
def endedPieces : List (List Char) → List (List Char)
  | [] => []
  | [last] => if last.isEmpty then [] else [last]
  | piece :: next :: rest => (piece ++ ['\n']) :: endedPieces (next :: rest)

/-- The lines of a text, each with the line feed that ends it. -/
def endedLines (text : List Char) : List (List Char) :=
  endedPieces (pieces (· = '\n') text)

/-- A line without the line feed that ends it and the carriage return before that. -/
def dropLineEnd (line : List Char) : List Char :=
  if line.getLast? = some '\n' then dropReturn line.dropLast else line

end SicAssembler
