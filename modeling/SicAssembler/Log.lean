/-
This file tells what an assembly run reports while it goes on. Every statement
is reported by its row when the layout comes to it and again when the object
program does; what is tolerated rather than refused is reported as a warning.
The report of a run that stops ends with the statement at which it stopped.
-/

import SicAssembler.Assembly

namespace SicAssembler

/-- How much attention an entry asks for, the most urgent first. -/
inductive LogLevel where
  | error
  | warn
  | info
  | debug
  | trace
deriving DecidableEq, Repr

namespace LogLevel

/-- The name of a level. -/
def name : LogLevel → String
  | error => "ERROR"
  | warn => "WARN"
  | info => "INFO"
  | debug => "DEBUG"
  | trace => "TRACE"

/-- The place of a level, counted from the most urgent. -/
def rank : LogLevel → Nat
  | error => 1
  | warn => 2
  | info => 3
  | debug => 4
  | trace => 5

end LogLevel

/-- The part of the program that reports. -/
inductive LogTarget where
  | assembler
  | layout
  | objectProgram
deriving DecidableEq, Repr

/-- The name under which a part reports. -/
def LogTarget.name : LogTarget → String
  | assembler => "sicasm"
  | layout => "sicasm::pass_one"
  | objectProgram => "sicasm::pass_two"

/-- One entry of a report. -/
structure LogEntry where
  level : LogLevel
  target : LogTarget
  text : String
deriving DecidableEq, Repr

/-! ### Options and statements -/

namespace Options

/-- The name of a field style in a report. -/
def styleName : FieldStyle → String
  | .columns => "Columns"
  | .positional => "Positional"

/-- The name of a way of addressing in a report. -/
def addressingName : RecordAddressing → String
  | .tracked => "Tracked"
  | .fixedIncrement => "FixedIncrement"

/-- The name of a policy in a report. -/
def policyName : Strictness → String
  | .lenient => "Lenient"
  | .strict => "Strict"

/-- The choices of a run in a report. -/
def description (options : Options) : String :=
  "AssemblerOptions \x7b tokenizer: " ++ styleName options.fieldStyle ++
    ", text_addressing: " ++ addressingName options.addressing ++
    ", undefined_symbols: " ++ policyName options.undefinedSymbols ++
    ", duplicate_labels: " ++ policyName options.duplicateLabels ++ " \x7d"

end Options

/-- A text filled up with spaces in front to at least the given width. -/
def alignRight (width : Nat) (text : String) : String :=
  String.ofList (List.replicate (width - text.length) ' ') ++ text

/-- The entry that reports a statement. -/
def statementEntry (target : LogTarget) (statement : Statement) : LogEntry :=
  ⟨.trace, target, alignRight 4 (decimal statement.line) ++ ": " ++ statement.row⟩

/-! ### The layout -/

/-- The warning about a label that is defined again. -/
def duplicateWarning (cursor : Cursor) (policy : Strictness) (statement : Statement) :
    List LogEntry :=
  match statement.operation, statement.label?, policy with
  | .start, _, _ => []
  | .finish, _, _ => []
  | _, some label, .lenient =>
    if cursor.symbols.contains label then
      [⟨.warn, .layout,
        "Label " ++ label ++ " redefined on line " ++ decimal statement.line ++
          ", keeping first"⟩]
    else []
  | _, _, _ => []

/-- What is reported about one line. -/
def lineEntries (cursor : Cursor) (table : OpcodeTable) (policy : Strictness) (line : Nat)
    (fields : Fields) : List LogEntry :=
  match cursor.statement table line fields with
  | .error _ => []
  | .ok statement =>
    statementEntry .layout statement :: duplicateWarning cursor policy statement

/-- What is reported during a walk over lines. -/
def walkEntries (table : OpcodeTable) (policy : Strictness) :
    Cursor → List (Nat × Fields) → List LogEntry
  | cursor, [] =>
    [⟨.warn, .layout, "No END directive, program ends at " ++ hexadecimal cursor.counter⟩]
  | cursor, (line, fields) :: rest =>
    lineEntries cursor table policy line fields ++
      match cursor.place table policy line fields with
      | .error _ => []
      | .ok (statement, moved) =>
        if statement.operation = .finish then [] else walkEntries table policy moved rest

/-- The entry that reports a finished layout. -/
def layoutSummary (layout : Layout) : LogEntry :=
  ⟨.debug, .layout,
    "Pass one: " ++ decimal layout.statements.length ++ " records, " ++
      decimal layout.symbols.size ++ " symbols, start " ++ hexadecimal layout.program.start ++
      ", length " ++ hexadecimal layout.program.length⟩

/-! ### The object program -/

/-- The warning about an operand that is not defined. -/
def undefinedWarning (table : OpcodeTable) (symbols : SymbolTable) (policy : Strictness)
    (statement : Statement) : List LogEntry :=
  match statement.operation, statement.operand?, policy with
  | .instruction, some symbol, .lenient =>
    if table.contains statement.mnemonic && !symbols.contains symbol then
      [⟨.warn, .objectProgram,
        "Undefined symbol " ++ symbol ++ " on line " ++ decimal statement.line⟩]
    else []
  | _, _, _ => []

/-- What is reported while statements emit their fragments. -/
def emissionEntries (table : OpcodeTable) (symbols : SymbolTable) (policy : Strictness) :
    List Statement → List LogEntry
  | [] => [⟨.warn, .objectProgram, "No END record, closing object program"⟩]
  | statement :: rest =>
    statementEntry .objectProgram statement ::
      if statement.operation = .finish then []
      else
        undefinedWarning table symbols policy statement ++
          match statement.emission table symbols policy with
          | .error _ => []
          | .ok _ => emissionEntries table symbols policy rest

/-- The entry that reports a finished object program. -/
def objectSummary (records : ObjectProgram) : LogEntry :=
  ⟨.debug, .objectProgram,
    "Pass two: " ++ decimal records.length ++ " records (" ++
      decimal (records.filterMap ObjectRecord.textRecord?).length ++ " text)"⟩

/-! ### The whole run -/

/-- What is reported about a layout and its object program. -/
def objectEntries (table : OpcodeTable) (options : Options) (layout : Layout) : List LogEntry :=
  emissionEntries table layout.symbols options.undefinedSymbols layout.statements ++
    match ObjectProgram.ofLayout table options layout with
    | .error _ => []
    | .ok records => [objectSummary records]

/-- What an assembly run reports. -/
def assemblyLog (table : OpcodeTable) (options : Options) (source : String) : List LogEntry :=
  if table.isEmpty then []
  else
    let fields := numberedFields options.fieldStyle (linesOf source)
    ⟨.debug, .assembler, "Assembling with " ++ options.description⟩ ::
      walkEntries table options.duplicateLabels {} fields ++
      match Layout.ofLines table options (linesOf source) with
      | .error _ => []
      | .ok layout => layoutSummary layout :: objectEntries table options layout

end SicAssembler
