/-
This file holds the choices that an assembly run offers: how a line is divided
into fields, how text records get their addresses, and whether a symbol that is
missing or defined twice stops the run.
-/

namespace SicAssembler

/-- How a source line is divided into label, mnemonic and operand. -/
inductive FieldStyle where
  /-- A label is present only when the line starts in its first column. -/
  | columns
  /-- Three or more tokens are label, mnemonic and operand; fewer are mnemonic and operand. -/
  | positional
deriving DecidableEq, Repr

/-- How a text record gets its address. -/
inductive RecordAddressing where
  /-- A record starts at the address of its first fragment, and reservations end a record. -/
  | tracked
  /-- The first record starts at the program start, and each one lies three further. -/
  | fixedIncrement
deriving DecidableEq, Repr

/-- What happens when a symbol is missing or defined twice. -/
inductive Strictness where
  /-- A missing symbol stands for address zero, and the first of two definitions counts. -/
  | lenient
  /-- The run stops. -/
  | strict
deriving DecidableEq, Repr

/-- The choices for one assembly run. -/
structure Options where
  fieldStyle : FieldStyle := .columns
  addressing : RecordAddressing := .tracked
  undefinedSymbols : Strictness := .lenient
  duplicateLabels : Strictness := .lenient
deriving DecidableEq, Repr

namespace Options

/-- Positional fields, a fixed step between text records and lenient symbols. -/
def compatible : Options where
  fieldStyle := .positional
  addressing := .fixedIncrement

/-- The default choices, except that missing and repeated symbols stop the run. -/
def strict : Options where
  undefinedSymbols := .strict
  duplicateLabels := .strict

end Options

end SicAssembler
