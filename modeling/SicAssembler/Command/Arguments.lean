/-
This file reads the arguments of the command. They are read one after the
other, and the first that is wrong, or that asks for the version or for help,
decides. An option may have a long name and a short one; its value is attached
to it or is the next argument. Short options without values may stand together
behind one dash. Behind two dashes alone, every argument is a source file.
-/

import SicAssembler.Options
import SicAssembler.Text.Split

namespace SicAssembler

/-! ### Names of choices -/

/-- The field style of the given name. -/
def FieldStyle.ofName? : String → Option FieldStyle
  | "columns" => some .columns
  | "positional" => some .positional
  | _ => none

/-- The way of addressing of the given name. -/
def RecordAddressing.ofName? : String → Option RecordAddressing
  | "tracked" => some .tracked
  | "fixed-increment" => some .fixedIncrement
  | _ => none

/-- The policy of the given name. -/
def Strictness.ofName? : String → Option Strictness
  | "lenient" => some .lenient
  | "strict" => some .strict
  | _ => none

/-- The path that a text is; it must not be empty. -/
def path? (text : String) : Option String := if text = "" then none else some text

/-! ### Options of the command -/

/-- The options that take a value. -/
inductive ValueOption where
  | output
  | table
  | fieldStyle
  | addressing
  | undefinedSymbols
  | duplicateLabels
deriving DecidableEq, Repr

/-- The options that take none. -/
inductive Flag where
  | compatible
  | print
  | verbose
  | version
  | help
deriving DecidableEq, Repr

/-- An option of the command. -/
inductive CommandOption where
  | value (option : ValueOption)
  | flag (option : Flag)
deriving DecidableEq, Repr

namespace CommandOption

/-- The option of the given long name. -/
def ofLongName? : String → Option CommandOption
  | "output" => some (.value .output)
  | "optab" => some (.value .table)
  | "tokenizer" => some (.value .fieldStyle)
  | "text-addressing" => some (.value .addressing)
  | "undefined-symbols" => some (.value .undefinedSymbols)
  | "duplicate-labels" => some (.value .duplicateLabels)
  | "compat" => some (.flag .compatible)
  | "print" => some (.flag .print)
  | "verbose" => some (.flag .verbose)
  | "version" => some (.flag .version)
  | "help" => some (.flag .help)
  | _ => none

/-- The option of the given short name. -/
def ofShortName? : Char → Option CommandOption
  | 'o' => some (.value .output)
  | 'p' => some (.flag .print)
  | 'v' => some (.flag .verbose)
  | 'V' => some (.flag .version)
  | 'h' => some (.flag .help)
  | _ => none

end CommandOption

/-! ### Arguments -/

/-- What the arguments say. -/
structure Arguments where
  source? : Option String := none
  output? : Option String := none
  table? : Option String := none
  fieldStyle? : Option FieldStyle := none
  addressing? : Option RecordAddressing := none
  undefinedSymbols? : Option Strictness := none
  duplicateLabels? : Option Strictness := none
  compatible : Bool := false
  print : Bool := false
  verbosity : Nat := 0
deriving DecidableEq, Repr

/-- Why the arguments do not lead to a run. -/
inductive Interruption where
  | usage
  | version
  | help
deriving DecidableEq, Repr

namespace Arguments

/-- A value that is given for the first time and is well-formed. -/
def once {Value : Type} (known? read? : Option Value) : Except Interruption (Option Value) :=
  match known?, read? with
  | none, some value => .ok (some value)
  | _, _ => .error .usage

/-- Give an option its value. -/
def give (arguments : Arguments) (option : ValueOption) (value : String) :
    Except Interruption Arguments := do
  match option with
  | .output => return { arguments with output? := ← once arguments.output? (path? value) }
  | .table => return { arguments with table? := ← once arguments.table? (path? value) }
  | .fieldStyle =>
    let given ← once arguments.fieldStyle? (FieldStyle.ofName? value)
    return { arguments with fieldStyle? := given }
  | .addressing =>
    let given ← once arguments.addressing? (RecordAddressing.ofName? value)
    return { arguments with addressing? := given }
  | .undefinedSymbols =>
    let given ← once arguments.undefinedSymbols? (Strictness.ofName? value)
    return { arguments with undefinedSymbols? := given }
  | .duplicateLabels =>
    let given ← once arguments.duplicateLabels? (Strictness.ofName? value)
    return { arguments with duplicateLabels? := given }

/-- Raise a flag. -/
def raise (arguments : Arguments) : Flag → Except Interruption Arguments
  | .compatible =>
    if arguments.compatible then .error .usage else .ok { arguments with compatible := true }
  | .print => if arguments.print then .error .usage else .ok { arguments with print := true }
  | .verbose => .ok { arguments with verbosity := arguments.verbosity + 1 }
  | .version => .error .version
  | .help => .error .help

/-- Take an argument as the source file. -/
def takeSource (arguments : Arguments) (argument : String) : Except Interruption Arguments := do
  return { arguments with source? := ← once arguments.source? (path? argument) }

/-! ### Reading arguments -/

/-- What reading one argument leads to: the arguments so far, and the option whose value must be
the next argument, if there is one. -/
abbrev Step := Except Interruption (Arguments × Option ValueOption)

/-- Read an option by its long name, with its value behind an equals sign if it has one. -/
def readLong (arguments : Arguments) (text : List Char) : Step :=
  let name := String.ofList (text.takeWhile (· != '='))
  match CommandOption.ofLongName? name, text.dropWhile (· != '=') with
  | none, _ => .error .usage
  | some (.flag flag), [] => do return (← arguments.raise flag, none)
  | some (.flag _), _ :: _ => .error .usage
  | some (.value option), [] => .ok (arguments, some option)
  | some (.value option), _ :: value => do
    return (← arguments.give option (String.ofList value), none)

/-- Read options by their short names. The text behind an option that takes a value is its
value. -/
def readShort (arguments : Arguments) : List Char → Step
  | [] => .ok (arguments, none)
  | name :: rest =>
    match CommandOption.ofShortName? name with
    | none => .error .usage
    | some (.flag flag) => do
      let raised ← arguments.raise flag
      raised.readShort rest
    | some (.value option) =>
      match rest with
      | [] => .ok (arguments, some option)
      | '=' :: value => do return (← arguments.give option (String.ofList value), none)
      | value => do return (← arguments.give option (String.ofList value), none)

/-- Read one argument. -/
def readOne (arguments : Arguments) (argument : String) : Step :=
  match argument.toList with
  | '-' :: '-' :: text => arguments.readLong text
  | '-' :: name :: rest => arguments.readShort (name :: rest)
  | _ => do return (← arguments.takeSource argument, none)

/-- Whether an argument can be the value of the option before it. -/
def canBeValue (argument : String) : Bool :=
  argument = "-" || argument.toList.head? != some '-'

/-- Read arguments, the first of which must be the value of the pending option if there is one. -/
def readFrom : Option ValueOption → Arguments → List String → Except Interruption Arguments
  | none, arguments, [] => .ok arguments
  | some _, _, [] => .error .usage
  | some option, arguments, argument :: rest => do
    if canBeValue argument then
      readFrom none (← arguments.give option argument) rest
    else .error .usage
  | none, arguments, argument :: rest => do
    if argument = "--" then rest.foldlM takeSource arguments
    else
      let (next, pending) ← arguments.readOne argument
      readFrom pending next rest

/-- Read all arguments. -/
def read (arguments : List String) : Except Interruption Arguments :=
  readFrom none {} arguments

end Arguments

end SicAssembler
