/-
This file writes and reads the strings of a JSON text. Written strings escape
quotes, backslashes and controls, the latter by a letter where there is one.
Read strings may escape any character. An escaped code unit above the basic
plane must be half of a surrogate pair; a string with an unpaired half can be
skipped over, but it has no content.
-/

import SicAssembler.Text.Numeral

namespace SicAssembler.Json

/-! ### Writing -/

/-- A control character by its code point, in four lowercase digits. -/
def escapedCode (character : Char) : List Char :=
  ['\\', 'u'] ++ (Radix.hexadecimal.writePadded 4 character.toNat).map Char.toLower

/-- A character as it stands in a JSON string. -/
def escapedCharacter (character : Char) : List Char :=
  if character = '"' || character = '\\' then ['\\', character]
  else if character = '\x08' then ['\\', 'b']
  else if character = '\t' then ['\\', 't']
  else if character = '\n' then ['\\', 'n']
  else if character = '\x0c' then ['\\', 'f']
  else if character = '\r' then ['\\', 'r']
  else if character.toNat < 32 then escapedCode character
  else [character]

/-- The JSON string of a text. -/
def quote (text : List Char) : List Char :=
  '"' :: text.flatMap escapedCharacter ++ ['"']

/-! ### Reading -/

/-- What one place of a JSON string stands for. -/
inductive StringPart where
  | character (value : Char)
  /-- A code unit given by an escape, which may be half of a pair. -/
  | unit (value : Nat)
deriving DecidableEq, Repr

/-- The character that an escape letter stands for. -/
def escapeLetter? (letter : Char) : Option Char :=
  match letter with
  | '"' => some '"'
  | '\\' => some '\\'
  | '/' => some '/'
  | 'b' => some '\x08'
  | 'f' => some '\x0c'
  | 'n' => some '\n'
  | 'r' => some '\r'
  | 't' => some '\t'
  | _ => none

/-- Put a part in front of what was read after it. -/
def addPart (part : StringPart) (read : Option (List StringPart × List Char)) :
    Option (List StringPart × List Char) :=
  read.map fun (parts, rest) => (part :: parts, rest)

/-- The parts of the string whose opening quote was just passed, and the text behind its closing
quote. -/
def readParts : List Char → Option (List StringPart × List Char)
  | [] => none
  | '"' :: rest => some ([], rest)
  | '\\' :: 'u' :: first :: second :: third :: fourth :: rest =>
    match Radix.hexadecimal.read? [first, second, third, fourth] with
    | some value => addPart (.unit value) (readParts rest)
    | none => none
  | '\\' :: letter :: rest =>
    match escapeLetter? letter with
    | some value => addPart (.character value) (readParts rest)
    | none => none
  | character :: rest =>
    if character = '\\' || character.toNat < 32 then none
    else addPart (.character character) (readParts rest)

/-- Whether a code unit is the first half of a pair. -/
def isHighHalf (value : Nat) : Bool := 0xD800 ≤ value && value < 0xDC00

/-- Whether a code unit is the second half of a pair. -/
def isLowHalf (value : Nat) : Bool := 0xDC00 ≤ value && value < 0xE000

/-- The character that a pair of halves stands for. -/
def joinHalves (high low : Nat) : Char :=
  Char.ofNat ((high - 0xD800) * 0x400 + (low - 0xDC00) + 0x10000)

/-- The text that the parts of a string stand for, unless a half is unpaired. -/
def content? : List StringPart → Option (List Char)
  | [] => some []
  | .character value :: rest => (content? rest).map (value :: ·)
  | .unit high :: .unit low :: rest =>
    if isHighHalf high then
      if isLowHalf low then (content? rest).map (joinHalves high low :: ·) else none
    else if isLowHalf high then none
    else (content? (.unit low :: rest)).map (Char.ofNat high :: ·)
  | .unit value :: rest =>
    if isHighHalf value || isLowHalf value then none
    else (content? rest).map (Char.ofNat value :: ·)

end SicAssembler.Json
