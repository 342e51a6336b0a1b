/-
This file says what a run of the command comes to. It reads the opcode table, if
one is named, and the source. Then it fails, or it prints the listing and the
object program, or it writes three files: the object program, the listing and
the sidecar.
-/

import SicAssembler.Command.Host
import SicAssembler.Command.Settings

namespace SicAssembler

/-- What a run of the command comes to. -/
inductive Conclusion where
  | failed (message : String) (cause? : Option String)
  | printed (text : String)
  /-- Files to be written in order, and what is reported when they are. -/
  | writing (files : List (String × String)) (success : LogEntry)
deriving DecidableEq, Repr

/-- What a run of the command reports and comes to. -/
structure Report where
  log : List LogEntry
  conclusion : Conclusion
deriving DecidableEq, Repr

namespace Settings

section Loading

variable {Run : Type → Type} [Monad Run] [Host Run]

/-- Read the opcode table of a run. -/
def loadTable (settings : Settings) : Run (Except Conclusion OpcodeTable) :=
  match settings.table? with
  | none => return .ok OpcodeTable.sicMachine
  | some path => do
    match ← Host.readText path with
    | .error failure =>
      return .error (.failed ("reading opcode table " ++ path) (some failure.message))
    | .ok text =>
      match OpcodeTable.read text with
      | .error error => return .error (.failed error.message none)
      | .ok table => return .ok table

/-- Read the source text of a run. -/
def loadSource (settings : Settings) : Run (Except Conclusion String) := do
  match ← Host.readText settings.source with
  | .error failure =>
    return .error (.failed ("reading " ++ settings.source) (some failure.message))
  | .ok text => return .ok text

end Loading

/-- What is printed for an assembly. -/
def printedText (assembly : Assembly) : String :=
  "Pass 1 Output:\n" ++ assembly.listing ++ "\nPass 2 Output:\n" ++ assembly.objectText ++ "\n"

/-- The files that are written for an assembly of a source text. -/
def outputFiles (settings : Settings) (source : String) (assembly : Assembly) :
    List (String × String) :=
  [(settings.outputPath "ebj", assembly.objectText),
    (settings.outputPath "lst", assembly.listing),
    (settings.outputPath "sdb", (assembly.sidecar source).text)]

/-- The entry that reports the files that were written. -/
def writtenEntry (settings : Settings) (assembly : Assembly) : LogEntry :=
  ⟨.info, .assembler,
    "Wrote " ++ decimal assembly.records.length ++ " records for " ++
      assembly.layout.program.name ++ " to " ++ settings.outputPath "ebj"⟩

/-- What an assembly of a source text comes to. -/
def conclude (settings : Settings) (source : String) :
    Except AssemblyError Assembly → Conclusion
  | .error error => .failed error.message none
  | .ok assembly =>
    if settings.print then .printed (printedText assembly)
    else .writing (settings.outputFiles source assembly) (settings.writtenEntry assembly)

/-- Find out what a run comes to. The opcode table is read before the source. -/
def report {Run : Type → Type} [Monad Run] [Host Run] (settings : Settings) : Run Report := do
  match ← settings.loadTable with
  | .error conclusion => return ⟨[], conclusion⟩
  | .ok table =>
    match ← settings.loadSource with
    | .error conclusion => return ⟨[], conclusion⟩
    | .ok source =>
      return ⟨assemblyLog table settings.options source,
        settings.conclude source (assemble table settings.options source)⟩

/-! ### Texts for the user -/

/-- Whether an entry is urgent enough to be reported. -/
def isReported (settings : Settings) (entry : LogEntry) : Bool :=
  match settings.level? with
  | none => false
  | some level => entry.level.rank ≤ level.rank

/-- A text whose lines behind the first are indented. -/
def indented (text : String) : String :=
  String.ofList (text.toList.flatMap fun character =>
    if character = '\n' then '\n' :: List.replicate 4 ' ' else [character])

/-- The line of an entry; a text of several lines goes on below it, indented. -/
def entryLine (entry : LogEntry) : String :=
  let level := entry.level.name
  let padding := String.ofList (List.replicate (5 - level.length) ' ')
  "[" ++ level ++ padding ++ " " ++ entry.target.name ++ "] " ++ indented entry.text ++ "\n"

/-- The lines of the entries that are urgent enough to be reported. -/
def logText (settings : Settings) (entries : List LogEntry) : String :=
  String.join ((entries.filter settings.isReported).map entryLine)

end Settings

/-- The lines of a failure. -/
def failureText (message : String) (cause? : Option String) : String :=
  match cause? with
  | none => "Error: " ++ message ++ "\n"
  | some cause => "Error: " ++ message ++ "\n\nCaused by:\n    " ++ cause ++ "\n"

end SicAssembler
