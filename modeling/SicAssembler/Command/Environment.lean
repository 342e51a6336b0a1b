/-
This file defines the environment of a command, its named settings, and reads
further settings from the text of a settings file. Such a file has a setting a
line, a name and a value with an equals sign between them. Blank lines and
comments are skipped, a name that is already set keeps its value, and reading
stops at the first line that is none of these.
-/

import SicAssembler.Command.LogicalLines
import SicAssembler.Command.SettingValue
import SicAssembler.Dictionary

namespace SicAssembler

/-- The named settings that a command is started with. -/
abbrev Environment := Dictionary String

namespace Environment

/-- The value of a setting, which is empty for a name that is not set. -/
def valueOf (environment : Environment) (name : String) : String :=
  (environment.get? name).getD ""

/-! ### Settings -/

/-- What one line of a settings file says. -/
inductive SettingLine where
  | skipped
  | setting (name value : String)
  | malformed
deriving DecidableEq, Repr

/-- Whether a character can start a name. -/
def startsName (character : Char) : Bool := character.isAlpha || character = '_'

/-- Whether a character can stand in a name. -/
def inName (character : Char) : Bool :=
  character.isAlphanum || character = '_' || character = '.'

/-- Read a name and pass the blanks behind it. -/
def readName (text : List Char) : Option (String × List Char) :=
  match text with
  | [] => none
  | first :: _ =>
    if startsName first then
      some (String.ofList (text.takeWhile inName), (text.dropWhile inName).dropWhile isBlank)
    else none

/-- Whether nothing but perhaps a comment is left of a line. -/
def isBare (text : List Char) : Bool := text.isEmpty || text.head? = some '#'

/-- Read the rest of a line behind a name: an equals sign and a value. -/
def readSetting (environment : Environment) (name : String) : List Char → SettingLine
  | '=' :: rest =>
    let text := rest.dropWhile isBlank
    if isBare text then .setting name ""
    else match readValue environment.valueOf text with
      | some value => .setting name (String.ofList value)
      | none => .malformed
  | _ => .malformed

/-- Read a line of a settings file. The word `export` may precede a name. -/
def readLine (environment : Environment) (line : List Char) : SettingLine :=
  let text := trim line
  if isBare text then .skipped
  else match readName text with
    | none => .malformed
    | some (name, rest) =>
      if name = "export" ∧ rest.head? ≠ some '=' then
        match readName rest with
        | none => .malformed
        | some (name, rest) => environment.readSetting name rest
      else environment.readSetting name rest

/-- Add the settings of lines, up to the first that is malformed. A value may refer to the
settings that were there before it. -/
def addLines (environment : Environment) : List (List Char) → Environment
  | [] => environment
  | line :: rest =>
    match environment.readLine line with
    | .skipped => addLines environment rest
    | .setting name value => addLines (environment.insertIfNew name value) rest
    | .malformed => environment

/-- A text without the byte order mark that it may start with. -/
def dropMark : List Char → List Char
  | '\ufeff' :: rest => rest
  | text => text

/-- Add the settings in the text of a settings file. -/
def addText (environment : Environment) (text : String) : Environment :=
  environment.addLines (logicalLines (dropMark text.toList))

/-! ### Settings files -/

/-- The lines of bytes, each with the line feed that ends it. -/
def byteLines (bytes : List UInt8) : List (List UInt8) :=
  bytes.foldr
    (fun byte found =>
      match found with
      | [] => [[byte]]
      | line :: rest => if byte = 10 then [byte] :: found else (byte :: line) :: rest)
    []

/-- The text of the leading lines of bytes, up to the first line that is no text. -/
def leadingText (content : ByteArray) : String :=
  String.join (((byteLines content.data.toList).map fun line =>
    String.fromUTF8? line.toByteArray).takeWhile Option.isSome).reduceOption

/-- The paths of the settings files of a directory and of those above it. The names on the way to
the directory are given from the last to the first. -/
def settingsPaths : List String → List String
  | [] => ["/.env"]
  | name :: outer =>
    ("/" ++ "/".intercalate (name :: outer).reverse ++ "/.env") :: settingsPaths outer

end Environment

end SicAssembler
