/-
This file is the command itself: the host that reads and writes the files of the
machine, looks up its settings and prints to its streams.
-/

import SicAssembler.Command.Session

namespace SicAssembler.Main

/-- The reason behind an error of the system. -/
def failureOf : IO.Error → FileFailure
  | .inappropriateType _ code _ => ofCode code
  | .invalidArgument _ code _ => ofCode code
  | .permissionDenied _ _ _ => .denied
  | .resourceExhausted _ _ _ => .noRoom
  | _ => .notFound
where
  ofCode (code : UInt32) : FileFailure :=
    if code = 20 then .notDirectory
    else if code = 21 then .isDirectory
    else if code = 36 then .nameTooLong
    else if code = 40 then .tooManyLinks
    else .notFound

instance : Host IO where
  readBytes path := do
    try
      return .ok (← IO.FS.readBinFile path)
    catch error =>
      return .error (failureOf error)
  writeBytes path bytes := do
    try
      IO.FS.writeBinFile path bytes
      return none
    catch error =>
      return some (failureOf error)
  workingDirectory? := do
    try
      let path := toString (← IO.currentDir)
      return some ((FileSystem.namesOf path).filter (· ≠ ""))
    catch _ =>
      return none
  startSettings names := do
    let settings ← names.filterMapM fun name => do
      return (← IO.getEnv name).map fun value => (name, value)
    return Dictionary.ofListFirst settings
  print text := IO.print text
  printError text := IO.eprint text

end SicAssembler.Main

/-- The command. -/
def main (arguments : List String) : IO UInt32 := do
  let exitCode ← SicAssembler.Session.command arguments
  return exitCode.toUInt32
