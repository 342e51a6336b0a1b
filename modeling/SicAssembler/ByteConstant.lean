/-
This file reads the constants of the byte directive. `C'EOF'` gives the bytes
of its characters, which must be ASCII; `X'F1'` gives one byte for each pair of
its hexadecimal digits. Neither may be empty. The text of a constant reaches
from the first quote to the last character of the operand, which must be a
quote, so it may itself hold quotes.
-/

import SicAssembler.Text.Numeral

namespace SicAssembler

/-- A constant of the byte directive, with the text between its quotes. -/
inductive ByteConstant where
  | characters (text : String)
  | hexadecimal (digits : String)
deriving DecidableEq, Repr

namespace ByteConstant

/-! ### Reading -/

/-- The text between an opening mark and a quote at the very end. -/
def between? (kind : Char) : List Char → Option (List Char)
  | first :: '\'' :: rest =>
    if first = kind ∧ rest.getLast? = some '\'' then some rest.dropLast else none
  | _ => none

/-- Whether a character has a one-byte code. -/
def isAscii (character : Char) : Bool := character.toNat < 128

/-- Whether a text between quotes is a character constant. -/
def isCharacters (text : List Char) : Bool := !text.isEmpty && text.all isAscii

/-- Whether a text between quotes is a hexadecimal constant. -/
def isHexadecimal (text : List Char) : Bool :=
  !text.isEmpty && text.length % 2 = 0 && text.all Radix.hexadecimal.isDigit

/-- The constant that an operand denotes. -/
def read? (operand : String) : Option ByteConstant :=
  match between? 'C' operand.toList with
  | some text => if isCharacters text then some (characters (String.ofList text)) else none
  | none =>
    match between? 'X' operand.toList with
    | some text => if isHexadecimal text then some (hexadecimal (String.ofList text)) else none
    | none => none

/-! ### Size and bytes -/

/-- The text between the quotes. -/
def text : ByteConstant → String
  | characters text => text
  | hexadecimal digits => digits

/-- The number of bytes that a constant takes up. -/
def size : ByteConstant → Nat
  | characters text => text.utf8ByteSize
  | hexadecimal digits => digits.utf8ByteSize / 2

/-- The byte that a few bytes of a text denote together, if they are a numeral of one. -/
def numeralByte? (chunk : List UInt8) : Option UInt8 := do
  let numeral ← String.fromUTF8? chunk.toByteArray
  (Radix.hexadecimal.readBelow? 256 numeral.toList).map UInt8.ofNat

/-- The bytes that the bytes of a text denote, two at a time; the last may stand alone. What is no
numeral is left out. -/
def pairBytes : List UInt8 → List UInt8
  | high :: low :: rest => (numeralByte? [high, low]).toList ++ pairBytes rest
  | [single] => (numeralByte? [single]).toList
  | [] => []

/-- The bytes of a constant. -/
def bytes : ByteConstant → List UInt8
  | characters text => text.toUTF8.data.toList
  | hexadecimal digits => pairBytes digits.toUTF8.data.toList

end ByteConstant

end SicAssembler
