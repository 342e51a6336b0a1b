/-
This file lists the causes that stop an assembly run, and words each of them.
Line numbers count from one. A run that stops produces no object program.
-/

import SicAssembler.Text.Quoted

namespace SicAssembler

/-- The fields of a statement that hold a number. -/
inductive NumericField where
  | startAddress
  | wordValue
  | reservedWords
  | reservedBytes
deriving DecidableEq, Repr

/-- The name of a field in a message. -/
def NumericField.name : NumericField → String
  | startAddress => "START address"
  | wordValue => "WORD value"
  | reservedWords => "RESW count"
  | reservedBytes => "RESB count"

/-- A cause that stops an assembly run. -/
inductive AssemblyError where
  | invalidMnemonic (mnemonic : String) (line : Nat)
  | emptyOpcodeTable
  | malformedNumber (field : NumericField) (value : String) (line : Nat)
  | malformedTableEntry (line : Nat) (text : String)
  /-- A `BYTE` operand whose size and bytes could not be told. -/
  | malformedConstant (operand : String) (line : Nat)
  | undefinedSymbol (symbol : String) (line : Nat)
  | duplicateLabel (label : String) (line : Nat)
  | addressOutOfRange (address : Nat) (line : Nat)
deriving DecidableEq, Repr

namespace AssemblyError

/-- The wording of a cause. -/
def message : AssemblyError → String
  | invalidMnemonic mnemonic line => "Invalid opcode " ++ mnemonic ++ onLine line
  | emptyOpcodeTable => "Cannot run assembler: opcode table is not loaded"
  | malformedNumber field value line =>
    "Malformed " ++ field.name ++ " field " ++ quoted value ++ onLine line
  | malformedTableEntry line text =>
    "Malformed opcode table entry " ++ quoted text ++ onLine line
  | malformedConstant operand line => "Malformed BYTE constant " ++ operand ++ onLine line
  | undefinedSymbol symbol line => "Undefined symbol " ++ symbol ++ onLine line
  | duplicateLabel label line => "Duplicate label " ++ label ++ onLine line
  | addressOutOfRange address line =>
    "Address " ++ hexadecimal address ++ " out of range" ++ onLine line
where
  onLine (line : Nat) : String := " on line " ++ decimal line

/-- The source line that a cause names, if it names one. -/
def line? : AssemblyError → Option Nat
  | emptyOpcodeTable => none
  | invalidMnemonic _ line => some line
  | malformedNumber _ _ line => some line
  | malformedTableEntry line _ => some line
  | malformedConstant _ line => some line
  | undefinedSymbol _ line => some line
  | duplicateLabel _ line => some line
  | addressOutOfRange _ line => some line

end AssemblyError

end SicAssembler
