/-
This file defines opcode tables, which give each mnemonic of a machine its
operation code, the table of the SIC machine, and the text form in which a
table is kept: one entry a line, mnemonic and code in base sixteen, with
anything after the code ignored. Blank lines and lines that begin with a period
are skipped, and a later entry for a mnemonic replaces an earlier one.
-/

import SicAssembler.AssemblyError
import SicAssembler.Dictionary
import SicAssembler.Text.Blank
import SicAssembler.Text.Lines

namespace SicAssembler

/-- The operation code of each mnemonic. Mnemonics are told apart by case. -/
abbrev OpcodeTable := Dictionary UInt8

namespace OpcodeTable

/-- The instruction set of the SIC machine. -/
def sicMachine : OpcodeTable :=
  Dictionary.ofListLast
    [("ADD", 0x18), ("AND", 0x40), ("COMP", 0x28), ("DIV", 0x24), ("J", 0x3C), ("JEQ", 0x30),
      ("JGT", 0x34), ("JLT", 0x38), ("JSUB", 0x48), ("LDA", 0x00), ("LDCH", 0x50), ("LDL", 0x08),
      ("LDX", 0x04), ("MUL", 0x20), ("OR", 0x44), ("RD", 0xD8), ("RSUB", 0x4C), ("STA", 0x0C),
      ("STCH", 0x54), ("STL", 0x14), ("STSW", 0xE8), ("STX", 0x10), ("SUB", 0x1C), ("TD", 0xE0),
      ("TIX", 0x2C), ("WD", 0xDC)]

/-! ### Reading a table -/

/-- What one line of a table's text says. -/
inductive TableLine where
  | skipped
  | entry (mnemonic : String) (code : UInt8)
  | malformed
deriving DecidableEq, Repr

/-- The operation code that a token of at most two bytes denotes; a plus sign may precede it. -/
def code? (token : List Char) : Option UInt8 :=
  if 2 < (String.ofList token).utf8ByteSize then none
  else (Radix.hexadecimal.readBelow? 256 token).map UInt8.ofNat

/-- Read one line of a table's text. -/
def readLine (line : String) : TableLine :=
  match tokens line.toList with
  | [] => .skipped
  | mnemonic :: rest =>
    if mnemonic.head? = some '.' then .skipped
    else match rest.head?.bind code? with
      | some code => .entry (String.ofList mnemonic) code
      | none => .malformed

/-- Add the entries of the given lines, the first of which has the given number. -/
def addLines (table : OpcodeTable) : Nat → List String → Except AssemblyError OpcodeTable
  | _, [] => .ok table
  | number, line :: rest =>
    match readLine line with
    | .skipped => addLines table (number + 1) rest
    | .entry mnemonic code => addLines (table.insert mnemonic code) (number + 1) rest
    | .malformed => .error (.malformedTableEntry number line)

/-- Read the text form of a table. -/
def read (text : String) : Except AssemblyError OpcodeTable :=
  addLines .empty 1 (linesOf text)

end OpcodeTable

end SicAssembler
