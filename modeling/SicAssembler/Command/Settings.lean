/-
This file settles what a run of the command does. What an argument does not say
is taken from the environment, and what that does not say either has a default.
The compatible mode decides all choices of the assembly at once.
-/

import SicAssembler.Command.Arguments
import SicAssembler.Command.Environment
import SicAssembler.Log

namespace SicAssembler

/-- What a run of the command does. -/
structure Settings where
  source : String
  output? : Option String
  table? : Option String
  options : Options
  print : Bool
  /-- The least urgent level that is reported, if any is. -/
  level? : Option LogLevel
deriving DecidableEq, Repr

/-! ### Levels -/

namespace LogLevel

/-- The level that a number of requests for more detail leads to. -/
def ofVerbosity : Nat → LogLevel
  | 0 => warn
  | 1 => info
  | 2 => debug
  | _ => trace

/-- The level that a setting names, in either case; `off` names none, and neither does a word
that is no level. -/
def ofSetting? (text : String) : Option LogLevel :=
  match String.ofList ((trim text.toList).map Char.toLower) with
  | "" => some error
  | "error" => some error
  | "warn" => some warn
  | "info" => some info
  | "debug" => some debug
  | "trace" => some trace
  | _ => none

end LogLevel

namespace Settings

/-! ### Choices -/

/-- What an argument says, or else the environment, or else the default. The environment must
not say anything malformed. -/
def choose {Value : Type} (given? : Option Value) (environment : Environment) (name : String)
    (read? : String → Option Value) (absent : Value) : Except Interruption Value :=
  match given?, environment.get? name with
  | some value, _ => .ok value
  | none, none => .ok absent
  | none, some text =>
    match read? text with
    | some value => .ok value
    | none => .error .usage

/-- The truth value of the given name. -/
def truth? : String → Option Bool
  | "true" => some true
  | "false" => some false
  | _ => none

/-- The choices of the assembly. -/
def chooseOptions (arguments : Arguments) (environment : Environment) :
    Except Interruption Options := do
  let fieldStyle ← choose arguments.fieldStyle? environment "SICASM_TOKENIZER"
    FieldStyle.ofName? .columns
  let addressing ← choose arguments.addressing? environment "SICASM_TEXT_ADDRESSING"
    RecordAddressing.ofName? .tracked
  let undefinedSymbols ← choose arguments.undefinedSymbols? environment
    "SICASM_UNDEFINED_SYMBOLS" Strictness.ofName? .lenient
  let duplicateLabels ← choose arguments.duplicateLabels? environment
    "SICASM_DUPLICATE_LABELS" Strictness.ofName? .lenient
  let given? := if arguments.compatible then some true else none
  let compatible ← choose given? environment "SICASM_COMPAT" truth? false
  return if compatible then .compatible
    else { fieldStyle, addressing, undefinedSymbols, duplicateLabels }

/-- The least urgent level that is reported. -/
def chooseLevel (arguments : Arguments) (environment : Environment) : Option LogLevel :=
  match environment.get? "RUST_LOG" with
  | some text => LogLevel.ofSetting? text
  | none => some (LogLevel.ofVerbosity arguments.verbosity)

/-- The settings of a run with the given arguments and environment. -/
def ofArguments (arguments : Arguments) (environment : Environment) :
    Except Interruption Settings := do
  match arguments.source? with
  | none => .error .usage
  | some source =>
    let table? ← choose (arguments.table?.map some) environment "SICASM_OPTAB"
      (fun text => (path? text).map some) none
    let options ← chooseOptions arguments environment
    return {
      source := source
      output? := arguments.output?
      table? := table?
      options := options
      print := arguments.print
      level? := chooseLevel arguments environment }

/-- The names under which the environment is asked for settings. -/
def environmentNames : List String :=
  ["SICASM_OPTAB", "SICASM_TOKENIZER", "SICASM_TEXT_ADDRESSING", "SICASM_UNDEFINED_SYMBOLS",
    "SICASM_DUPLICATE_LABELS", "SICASM_COMPAT", "RUST_LOG"]

/-! ### Output files -/

/-- The name of a file without its last extension; a name that starts with its only period has
none. The period before the extension goes with it, unless a single period would be left, which
names no file. -/
def withoutExtension (name : List Char) : List Char :=
  let stem := ((name.reverse.dropWhile (· != '.')).drop 1).reverse
  if stem.isEmpty then name
  else if stem = ['.'] then ['.', '.']
  else stem

/-- The path of a file without the last extension of its name. -/
def dropExtension (path : String) : String :=
  let name := (path.toList.reverse.takeWhile (· != '/')).reverse
  let directory := path.toList.take (path.toList.length - name.length)
  String.ofList (directory ++ withoutExtension name)

/-- The path that the paths of all output files start with. -/
def outputBase (settings : Settings) : String :=
  settings.output?.getD (dropExtension settings.source)

/-- The path of the output file with the given extension. -/
def outputPath (settings : Settings) (extension : String) : String :=
  settings.outputBase ++ "." ++ extension

end Settings

end SicAssembler
