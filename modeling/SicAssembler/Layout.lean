/-
This file lays a program out: it gives every statement its address, collects
the labels and measures the program. The lines are walked once, in order, with
a cursor that holds the start address, the location counter and the symbols
found so far. A start directive moves the cursor, an end directive stops the
walk, and every other statement moves the counter by its size.

Addresses are 24-bit, and the counter may come to rest one past the last of
them.
-/

import SicAssembler.Statement
import SicAssembler.Text.Lines

namespace SicAssembler

/-- The address of each label, in order of definition. -/
abbrev SymbolTable := Dictionary Nat

/-- The text form of a symbol table: a row for each label, with its address. -/
def SymbolTable.rows (symbols : SymbolTable) : String :=
  String.join (symbols.entries.map fun (label, address) =>
    label ++ "\t" ++ hexadecimal address ++ "\n")

/-- The name and extent of a program. -/
structure Program where
  name : String
  start : Nat
  length : Nat
  /-- Whether an end directive closed the program. -/
  terminated : Bool
deriving DecidableEq, Repr

/-- The name that every program is given. -/
def programName : String := "COPY"

/-- The number of addresses. -/
def addressCount : Nat := 0x1000000

/-! ### The cursor -/

/-- Where the walk over a program stands. -/
structure Cursor where
  start : Nat := 0
  /-- The address of the next statement. -/
  counter : Nat := 0
  symbols : SymbolTable := .empty
deriving DecidableEq

namespace Cursor

/-- The statement that a line's fields ask for, at the current address. -/
def statement (cursor : Cursor) (table : OpcodeTable) (line : Nat) (fields : Fields) :
    Except AssemblyError Statement :=
  match Operation.ofMnemonic? table fields.mnemonic with
  | some operation =>
    .ok { fields with line := line, address := cursor.counter, operation := operation }
  | none => .error (.invalidMnemonic fields.mnemonic line)

/-- Define the label of a statement, if it has one, at the current address. -/
def defineLabel (cursor : Cursor) (policy : Strictness) (statement : Statement) :
    Except AssemblyError Cursor :=
  match statement.label? with
  | none => .ok cursor
  | some label =>
    if cursor.symbols.contains label then
      match policy with
      | .lenient => .ok cursor
      | .strict => .error (.duplicateLabel label statement.line)
    else .ok { cursor with symbols := cursor.symbols.insertIfNew label cursor.counter }

/-- Move the counter on by a number of bytes. -/
def moveBy (cursor : Cursor) (size line : Nat) : Except AssemblyError Cursor :=
  let next := cursor.counter + size
  if addressCount < next then .error (.addressOutOfRange next line)
  else .ok { cursor with counter := next }

/-- Move the cursor to the address in the operand of a start directive. -/
def moveTo (cursor : Cursor) (statement : Statement) : Except AssemblyError Cursor := do
  let start ← statement.number .hexadecimal .startAddress
  if addressCount ≤ start then .error (.addressOutOfRange start statement.line)
  else .ok { cursor with start := start, counter := start }

/-- Let a statement take effect: the result is the statement with its final address, and the
cursor after it. -/
def settle (cursor : Cursor) (policy : Strictness) (statement : Statement) :
    Except AssemblyError (Statement × Cursor) :=
  match statement.operation with
  | .start => do
    let moved ← cursor.moveTo statement
    return ({ statement with address := moved.start }, moved)
  | .finish =>
    match statement.label? with
    | some _ => .error (.invalidMnemonic statement.mnemonic statement.line)
    | none => .ok (statement, cursor)
  | _ => do
    let labelled ← cursor.defineLabel policy statement
    let size ← statement.size
    let moved ← labelled.moveBy size statement.line
    return (statement, moved)

/-- Place one line: the statement it asks for, and the cursor after it. -/
def place (cursor : Cursor) (table : OpcodeTable) (policy : Strictness) (line : Nat)
    (fields : Fields) : Except AssemblyError (Statement × Cursor) := do
  let statement ← cursor.statement table line fields
  cursor.settle policy statement

end Cursor

/-! ### The walk -/

/-- What a walk over lines leaves behind. -/
structure Walk where
  statements : List Statement
  cursor : Cursor
  terminated : Bool
deriving DecidableEq

/-- Walk over lines up to the end directive. -/
def walk (table : OpcodeTable) (policy : Strictness) :
    Cursor → List (Nat × Fields) → Except AssemblyError Walk
  | cursor, [] => .ok { statements := [], cursor := cursor, terminated := false }
  | cursor, (line, fields) :: rest => do
    let (statement, moved) ← cursor.place table policy line fields
    if statement.operation = .finish then
      return { statements := [statement], cursor := moved, terminated := true }
    else
      let later ← walk table policy moved rest
      return { later with statements := statement :: later.statements }

/-- The fields of the lines that have any, each with its line number. -/
def numberedFields (style : FieldStyle) (lines : List String) : List (Nat × Fields) :=
  (lines.zipIdx 1).filterMap fun (line, number) =>
    (Fields.ofLine? style line).map fun fields => (number, fields)

/-! ### Layouts -/

/-- A program whose statements have their addresses. -/
structure Layout where
  statements : List Statement
  symbols : SymbolTable
  program : Program
deriving DecidableEq

namespace Layout

/-- The layout that a finished walk amounts to. -/
def ofWalk (found : Walk) : Layout where
  statements := found.statements
  symbols := found.cursor.symbols
  program :=
    { name := programName
      start := found.cursor.start
      length := found.cursor.counter - found.cursor.start
      terminated := found.terminated }

/-- Lay out the program in the given lines. -/
def ofLines (table : OpcodeTable) (options : Options) (lines : List String) :
    Except AssemblyError Layout :=
  if table.isEmpty then .error .emptyOpcodeTable
  else do
    let found ← walk table options.duplicateLabels {} (numberedFields options.fieldStyle lines)
    return ofWalk found

/-- The listing: the row of each statement on a line of its own. -/
def listing (layout : Layout) : String :=
  String.join (layout.statements.map fun statement => statement.row ++ "\n")

end Layout

end SicAssembler
