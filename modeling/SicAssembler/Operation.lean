/-
This file tells the operations of the assembly language apart: the six
directives and the machine instructions. Directives come before the opcode
table, so a table cannot take a directive's name away from it, and any mnemonic
that begins with `BYTE` is the byte directive.
-/

import SicAssembler.OpcodeTable

namespace SicAssembler

/-- What a statement asks for. -/
inductive Operation where
  /-- Set the start address of the program. -/
  | start
  /-- Close the program. -/
  | finish
  /-- Place the bytes of a constant. -/
  | byte
  /-- Place a 24-bit word. -/
  | word
  /-- Reserve a number of words. -/
  | reserveWords
  /-- Reserve a number of bytes. -/
  | reserveBytes
  /-- Place a machine instruction. -/
  | instruction
deriving DecidableEq, Repr

namespace Operation

/-- The directive of exactly the given name. -/
def directive? (mnemonic : String) : Option Operation :=
  if mnemonic = "START" then some start
  else if mnemonic = "END" then some finish
  else if mnemonic = "BYTE" then some byte
  else if mnemonic = "WORD" then some word
  else if mnemonic = "RESW" then some reserveWords
  else if mnemonic = "RESB" then some reserveBytes
  else none

/-- The operation that a mnemonic stands for under an opcode table. -/
def ofMnemonic? (table : OpcodeTable) (mnemonic : String) : Option Operation :=
  match directive? mnemonic with
  | some operation => some operation
  | none =>
    if "BYTE".toList.isPrefixOf mnemonic.toList then some byte
    else if table.contains mnemonic then some instruction
    else none

end Operation

end SicAssembler
