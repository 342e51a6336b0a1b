/-
This file says what the command asks of the system that it runs on, and gives
one such system: a world of files, settings and printed text. The command is
written once, for every host. On the world its runs can be reasoned about.
-/

import SicAssembler.Command.Environment
import SicAssembler.Command.FileSystem

namespace SicAssembler

/-- A kind of runs that can read and write files, look up settings and print. -/
class Host (Run : Type → Type) where
  /-- The bytes of the file that a path leads to. -/
  readBytes : String → Run (Except FileFailure ByteArray)
  /-- Write bytes as the whole content of a file; the result is why this failed, if it did. -/
  writeBytes : String → ByteArray → Run (Option FileFailure)
  /-- The place of the working directory, if there is one. -/
  workingDirectory? : Run (Option Place)
  /-- The settings that the command is started with, at least those of the given names. -/
  startSettings : List String → Run Environment
  print : String → Run Unit
  printError : String → Run Unit

/-- The text of the file that a path leads to. -/
def Host.readText {Run : Type → Type} [Monad Run] [Host Run] (path : String) :
    Run (Except FileFailure String) := do
  return (← Host.readBytes path) >>= FileSystem.decode

/-- All that a run of the command can see or change. -/
structure World where
  system : FileSystem
  /-- The settings that the command is started with. -/
  environment : Environment
  printed : String := ""
  errors : String := ""

/-- Runs on a world. -/
abbrev WorldRun := StateM World

instance : Host WorldRun where
  readBytes path := do return (← get).system.readBytes path
  writeBytes path bytes := modifyGet fun world =>
    let (system, failure?) := world.system.writeBytes path bytes
    (failure?, { world with system := system })
  workingDirectory? := do return (← get).system.presentDirectory?
  startSettings _ := do return (← get).environment
  print text := modify fun world => { world with printed := world.printed ++ text }
  printError text := modify fun world => { world with errors := world.errors ++ text }

end SicAssembler
