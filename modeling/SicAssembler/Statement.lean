/-
This file defines statements, the source lines that ask the assembler for
something, each with the address it was given. It reads the numbers and
constants in their operands and writes their rows of the listing.
-/

import SicAssembler.ByteConstant
import SicAssembler.Fields
import SicAssembler.Operation

namespace SicAssembler

/-- A source line that asks for an operation, with its line number and its address. -/
structure Statement extends Fields where
  line : Nat
  address : Nat
  operation : Operation
deriving DecidableEq, Repr

namespace Statement

/-! ### Operands -/

/-- What stands in a row or a message for an operand or a label that is absent. -/
def absentText : String := "-"

/-- The cause reported when an operand is not the number that `field` asks for. -/
def malformed (statement : Statement) (field : NumericField) : AssemblyError :=
  .malformedNumber field (statement.operand?.getD absentText) statement.line

/-- The operand, which must be present for the given field. -/
def operandFor (statement : Statement) (field : NumericField) : Except AssemblyError String :=
  match statement.operand? with
  | some operand => .ok operand
  | none => .error (statement.malformed field)

/-- The number of values of a 32-bit word, which a numeral in an operand must stay below. -/
def wordValues : Nat := 0x100000000

/-- The unsigned number in an operand. -/
def number (statement : Statement) (radix : Radix) (field : NumericField) :
    Except AssemblyError Nat := do
  let operand ← statement.operandFor field
  match radix.readBelow? wordValues operand.toList with
  | some value => .ok value
  | none => .error (statement.malformed field)

/-- The constant in the operand of a byte directive. -/
def constant (statement : Statement) : Except AssemblyError ByteConstant :=
  let operand := statement.operand?.getD absentText
  match ByteConstant.read? operand with
  | some constant => .ok constant
  | none => .error (.malformedConstant operand statement.line)

/-- Whether a number fits a 24-bit word, signed or unsigned. -/
def fitsWord (value : Int) : Bool := -0x800000 ≤ value && value ≤ 0xFFFFFF

/-- The 24-bit word in the operand of a word directive; negative numbers are in two's
complement. -/
def word (statement : Statement) : Except AssemblyError UInt32 := do
  let operand ← statement.operandFor .wordValue
  match (Radix.decimal.readSigned? operand.toList).filter fitsWord with
  | some value => .ok (UInt32.ofNat (value % 0x1000000).toNat)
  | none => .error (statement.malformed .wordValue)

/-! ### Sizes -/

/-- The number of bytes of an instruction or a word. -/
def wordSize : Nat := 3

/-- The number of bytes from the statement's address to that of the next statement. -/
def size (statement : Statement) : Except AssemblyError Nat :=
  match statement.operation with
  | .start => .ok 0
  | .finish => .ok 0
  | .word => .ok wordSize
  | .instruction => .ok wordSize
  | .reserveWords => (wordSize * ·) <$> statement.number .decimal .reservedWords
  | .reserveBytes => statement.number .decimal .reservedBytes
  | .byte => ByteConstant.size <$> statement.constant

/-! ### Listing -/

/-- Columns joined by tabs. -/
def tabbed (columns : List String) : String := "\t".intercalate columns

/-- The row of a statement in the listing: address, label, mnemonic and operand. A start
directive shows no address, and an end directive shows nothing else. -/
def row (statement : Statement) : String :=
  let label := statement.label?.getD absentText
  let operand := statement.operand?.getD absentText
  match statement.operation with
  | .start => tabbed [absentText, label, statement.mnemonic, operand]
  | .finish => tabbed [hexadecimal statement.address, absentText, "END", absentText]
  | _ => tabbed [hexadecimal statement.address, label, statement.mnemonic, operand]

end Statement

end SicAssembler
