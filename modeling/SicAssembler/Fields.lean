/-
This file divides a source line into its fields: an optional label, a mnemonic
and an optional operand. Blank lines and lines whose first token begins with a
period have no fields. A line whose first token is `END` closes the program
wherever it starts; any other line is divided in one of two styles, by columns
or by the number of its tokens.
-/

import SicAssembler.Options
import SicAssembler.Pattern
import SicAssembler.Text.Blank

namespace SicAssembler

/-- The fields of one source line. -/
structure Fields where
  label? : Option String
  mnemonic : String
  operand? : Option String
deriving DecidableEq, Repr

namespace Fields

/-! ### Fields by columns -/

/-- The parts of a line that the column pattern captures. -/
inductive Column where
  | label
  | mnemonic
  | operand
deriving DecidableEq, Repr

/-- Whether a character belongs to a token. -/
def isTokenCharacter (character : Char) : Bool := !isBlank character

/-- Whether a character can start a label in the first column. -/
def startsLabel (character : Char) : Bool := character != '.' && isTokenCharacter character

/-- The blanks between two columns. -/
def gap : Pattern Column := .atLeastOne isBlank

/-- A token, captured for the given column. -/
def tokenIn (column : Column) : Pattern Column :=
  .capture column (.atLeastOne isTokenCharacter)

/-- A token in the first column is a label, the next token is the mnemonic and the one after
it is the operand. -/
def columnPattern : Pattern Column :=
  .sequence
    (.optional (.capture .label (.sequence (.one startsLabel) (.many isTokenCharacter))))
    (.sequence gap
      (.sequence (tokenIn .mnemonic) (.optional (.sequence gap (tokenIn .operand)))))

/-- The part captured for a column. -/
def column? (captured : List (Column × List Char)) (column : Column) : Option String :=
  (captured.lookup column).map String.ofList

/-- Divide a line, whose first token is given, by columns. A token that stands alone in the first
column is a mnemonic. -/
def byColumns (line first : List Char) : Fields :=
  match columnPattern.captures? line with
  | some captured =>
    { label? := column? captured .label
      mnemonic := (column? captured .mnemonic).getD (String.ofList first)
      operand? := column? captured .operand }
  | none => { label? := none, mnemonic := String.ofList first, operand? := none }

/-! ### Fields by position -/

/-- Divide a line, whose tokens are given, by the number of its tokens. -/
def byPosition (first : List Char) : List (List Char) → Fields
  | second :: third :: _ =>
    { label? := some (String.ofList first)
      mnemonic := String.ofList second
      operand? := some (String.ofList third) }
  | rest =>
    { label? := none
      mnemonic := String.ofList first
      operand? := rest.head?.map String.ofList }

/-! ### Fields of a line -/

/-- The fields of a line, unless it is blank or a comment. -/
def ofLine? (style : FieldStyle) (line : String) : Option Fields :=
  match tokens line.toList with
  | [] => none
  | first :: rest =>
    if first.head? = some '.' then none
    else if first = ['E', 'N', 'D'] then
      some { label? := none, mnemonic := "END", operand? := rest.head?.map String.ofList }
    else match style with
      | .columns => some (byColumns line.toList first)
      | .positional => some (byPosition first rest)

end Fields

end SicAssembler
