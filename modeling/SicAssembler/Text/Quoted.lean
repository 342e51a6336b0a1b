/-
This file writes a text in double quotes for a message, so that the message
shows every character of the text: quotes and backslashes are escaped, the
usual controls have short names, and any other character that would not show by
itself is written by its code point.
-/

import SicAssembler.Text.GraphemeExtend
import SicAssembler.Text.Numeral
import SicAssembler.Text.Unprintable

namespace SicAssembler

/-- Whether a character shows by itself: it has a printed form and does not merge with the
character before it. -/
def showsItself (character : Char) : Bool :=
  !extendingRanges.any (·.holds character) && !unprintableRanges.any (·.holds character)

/-- The lowercase hexadecimal numeral of a code point. -/
def codePoint (character : Char) : List Char :=
  (Radix.hexadecimal.write character.toNat).map Char.toLower

/-- A character as it stands inside quotes. -/
def quotedCharacter (character : Char) : List Char :=
  if character = '\x00' then ['\\', '0']
  else if character = '\t' then ['\\', 't']
  else if character = '\n' then ['\\', 'n']
  else if character = '\r' then ['\\', 'r']
  else if character = '"' || character = '\\' then ['\\', character]
  else if showsItself character then [character]
  else ['\\', 'u', '\x7b'] ++ codePoint character ++ ['\x7d']

/-- A text in double quotes, with every character visible. -/
def quoted (text : String) : String :=
  String.ofList ('"' :: text.toList.flatMap quotedCharacter ++ ['"'])

end SicAssembler
