/-
This file turns a program whose statements have their addresses into the
records of its object program. Each statement up to the end directive emits a
fragment or a gap; the first that cannot do so stops the run. The fragments are
packed into text records between a header and an end record.
-/

import SicAssembler.Layout
import SicAssembler.Packing

namespace SicAssembler

namespace Statement

/-! ### What a statement emits -/

/-- The number of addresses that an instruction can name. -/
def targetCount : Nat := 0x10000

/-- The address that the operand of an instruction names. An absent operand names address zero,
as does a symbol that is not defined if that is tolerated. -/
def targetAddress (statement : Statement) (symbols : SymbolTable) (policy : Strictness) :
    Except AssemblyError UInt16 :=
  match statement.operand? with
  | none => .ok 0
  | some symbol =>
    match symbols.get? symbol, policy with
    | some address, _ =>
      if address < targetCount then .ok (UInt16.ofNat address)
      else .error (.addressOutOfRange address statement.line)
    | none, .lenient => .ok 0
    | none, .strict => .error (.undefinedSymbol symbol statement.line)

/-- The instruction that a statement asks for. -/
def instruction (statement : Statement) (table : OpcodeTable) (symbols : SymbolTable)
    (policy : Strictness) : Except AssemblyError Fragment :=
  match table.get? statement.mnemonic with
  | none => .error (.invalidMnemonic statement.mnemonic statement.line)
  | some opcode => do
    let address ← statement.targetAddress symbols policy
    return .instruction opcode address

/-- What a statement contributes to the object program. -/
def emission (statement : Statement) (table : OpcodeTable) (symbols : SymbolTable)
    (policy : Strictness) : Except AssemblyError Emission :=
  match statement.operation with
  | .start => .ok .gap
  | .finish => .ok .gap
  | .reserveWords => .ok .gap
  | .reserveBytes => .ok .gap
  | .word => do
    let value ← statement.word
    return .fragment statement.address (.word value)
  | .byte => do
    let constant ← statement.constant
    return .fragment statement.address (.bytes constant.bytes)
  | .instruction => do
    let content ← statement.instruction table symbols policy
    return .fragment statement.address content

end Statement

/-! ### Object programs -/

/-- The records of an object program, in order. -/
abbrev ObjectProgram := List ObjectRecord

namespace ObjectProgram

/-- The statements before the first end directive. -/
def beforeFinish (statements : List Statement) : List Statement :=
  statements.takeWhile fun statement => statement.operation != .finish

/-- The text records of emissions. -/
def textRecords (addressing : RecordAddressing) (start : Nat) (emissions : List Emission) :
    List TextRecord :=
  match addressing with
  | .tracked => packTracked emissions
  | .fixedIncrement => packFixed start emissions

/-- The records of a program with the given statements and symbols. -/
def ofStatements (table : OpcodeTable) (options : Options) (symbols : SymbolTable)
    (program : Program) (statements : List Statement) : Except AssemblyError ObjectProgram :=
  if table.isEmpty then .error .emptyOpcodeTable
  else do
    let emissions ← (beforeFinish statements).mapM fun statement =>
      statement.emission table symbols options.undefinedSymbols
    let texts := textRecords options.addressing program.start emissions
    return .header program.name program.start program.length ::
      texts.map .text ++ [.finish program.start]

/-- The records of a program that is laid out. -/
def ofLayout (table : OpcodeTable) (options : Options) (layout : Layout) :
    Except AssemblyError ObjectProgram :=
  ofStatements table options layout.symbols layout.program layout.statements

/-- The text of an object program: each record on a line of its own. -/
def text (records : ObjectProgram) : String :=
  String.join (records.map fun record => record.line ++ "\n")

end ObjectProgram

end SicAssembler
