/-
This file runs the command on a host. The nearest settings file, in the working
directory or above it, adds to the environment; then the arguments are read, then
the files that they name. What a run on a world of files leaves behind is its
outcome: what it has printed, and the files as they are after it.
-/

import SicAssembler.Command.Report

namespace SicAssembler

/-- What a run of the command leaves behind. -/
structure Outcome where
  /-- Zero for success, one for a failure and two for arguments that are wrong. -/
  exitCode : Nat
  printed : String
  errors : String
  system : FileSystem

namespace Session

section Runs

variable {Run : Type → Type} [Monad Run] [Host Run]

/-! ### Settings -/

/-- The content of the first of the given files that there is. A failure other than that there is
no such file ends the search. -/
def findContent : List String → Run (Option ByteArray)
  | [] => return none
  | path :: rest => do
    match ← Host.readBytes path with
    | .ok content => return some content
    | .error .notFound => findContent rest
    | .error .isDirectory => findContent rest
    | .error _ => return none

/-- The text of the nearest settings file, which is empty if none can be read. -/
def settingsText : Run String := do
  match ← Host.workingDirectory? with
  | none => return ""
  | some place =>
    match ← findContent (Environment.settingsPaths place.reverse) with
    | none => return ""
    | some content => return Environment.leadingText content

/-- The settings that the command is started with, and those of the settings file. -/
def fullEnvironment : Run Environment := do
  let text ← settingsText
  let started ← Host.startSettings (Settings.environmentNames ++ mentionedNames text.toList)
  return started.addText text

/-- The settings that arguments and environment lead to. -/
def settings (environment : Environment) (arguments : List String) :
    Except Interruption Settings := do
  let read ← Arguments.read arguments
  Settings.ofArguments read environment

/-! ### Runs -/

/-- What is printed for the version. -/
def versionText : String := "sicasm 0.1.0\n"

/-- What is printed for arguments that are wrong, and for help. -/
def usageText : String := "Usage: sicasm [OPTIONS] <SOURCE>\n"

/-- Tell why there is no run; the result is the exit code. -/
def interrupt : Interruption → Run Nat
  | .usage => do
    Host.printError usageText
    return 2
  | .version => do
    Host.print versionText
    return 0
  | .help => do
    Host.print usageText
    return 0

/-- Write files one after the other, up to the first that cannot be written; the result is why it
cannot be, if there is one. -/
def writeAll : List (String × String) → Run (Option FileFailure)
  | [] => return none
  | (path, text) :: rest => do
    match ← Host.writeBytes path text.toUTF8 with
    | some failure => return some failure
    | none => writeAll rest

/-- Print and write what a run comes to; the result is the exit code. -/
def finish (settings : Settings) (report : Report) : Run Nat := do
  Host.printError (settings.logText report.log)
  match report.conclusion with
  | .failed message cause? =>
    Host.printError (failureText message cause?)
    return 1
  | .printed text =>
    Host.print text
    return 0
  | .writing files success =>
    match ← writeAll files with
    | none =>
      Host.printError (settings.logText [success])
      return 0
    | some failure =>
      Host.printError (failureText failure.message none)
      return 1

/-- The command; the result is the exit code. -/
def command (arguments : List String) : Run Nat := do
  let environment ← fullEnvironment
  match settings environment arguments with
  | .error interruption => interrupt interruption
  | .ok settings => do
    let report ← settings.report
    finish settings report

end Runs

/-- Run the command on a file system. -/
def run (system : FileSystem) (environment : Environment) (arguments : List String) : Outcome :=
  let (exitCode, world) := (command arguments : WorldRun Nat).run ⟨system, environment, "", ""⟩
  ⟨exitCode, world.printed, world.errors, world.system⟩

end Session

end SicAssembler
