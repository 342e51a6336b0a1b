/-
This file reads and writes numerals in base ten and base sixteen. Written
numerals have uppercase digits and no superfluous zeros unless a least width is
asked for. Reading takes digits of either case and as many leading zeros as
there are; at least one digit is needed.
-/

namespace SicAssembler

/-- The base of a numeral. -/
inductive Radix where
  | decimal
  | hexadecimal
deriving DecidableEq, Repr

namespace Radix

/-- The number of digits of the base. -/
def base : Radix → Nat
  | decimal => 10
  | hexadecimal => 16

end Radix

/-! ### Digits -/

/-- The digits in ascending order of value. -/
def digitCharacters : List Char :=
  ['0', '1', '2', '3', '4', '5', '6', '7', '8', '9', 'A', 'B', 'C', 'D', 'E', 'F']

/-- The digit with the given value, for values below sixteen. -/
def digitCharacter (value : Nat) : Char :=
  digitCharacters.getD value '0'

/-- The value of a digit of base sixteen, in either case. -/
def digitValue? (character : Char) : Option Nat :=
  let code := character.toNat
  if 48 ≤ code ∧ code ≤ 57 then some (code - 48)
  else if 65 ≤ code ∧ code ≤ 70 then some (code - 55)
  else if 97 ≤ code ∧ code ≤ 102 then some (code - 87)
  else none

namespace Radix

/-- The value of a digit of this base. -/
def digit? (radix : Radix) (character : Char) : Option Nat :=
  (digitValue? character).filter (· < radix.base)

/-- Whether a character is a digit of this base. -/
def isDigit (radix : Radix) (character : Char) : Bool :=
  (radix.digit? character).isSome

end Radix

/-! ### Writing -/

/-- The digit values of a number, the most significant first. The first argument bounds the
number of digits; one more than the number itself is always enough. -/
def digitsWithin (base : Nat) : Nat → Nat → List Nat
  | 0, _ => []
  | bound + 1, number =>
    if number < base then [number]
    else digitsWithin base bound (number / base) ++ [number % base]

namespace Radix

/-- The numeral of a number, without superfluous zeros. -/
def write (radix : Radix) (number : Nat) : List Char :=
  (digitsWithin radix.base (number + 1) number).map digitCharacter

/-- The numeral of a number, filled up with zeros to at least the given width. -/
def writePadded (radix : Radix) (width number : Nat) : List Char :=
  let digits := radix.write number
  List.replicate (width - digits.length) '0' ++ digits

end Radix

/-- A number in base ten. -/
def decimal (number : Nat) : String :=
  String.ofList (Radix.decimal.write number)

/-- A number in base sixteen. -/
def hexadecimal (number : Nat) : String :=
  String.ofList (Radix.hexadecimal.write number)

/-- A number in base sixteen with at least `width` digits. -/
def hexadecimalPadded (width number : Nat) : String :=
  String.ofList (Radix.hexadecimal.writePadded width number)

/-! ### Reading -/

namespace Radix

/-- The number that a run of digits denotes, after the number denoted by the digits before it. -/
def readAfter (radix : Radix) : Nat → List Char → Option Nat
  | number, [] => some number
  | number, character :: rest =>
    match radix.digit? character with
    | some value => readAfter radix (number * radix.base + value) rest
    | none => none

/-- The number that a non-empty run of digits denotes. -/
def read? (radix : Radix) : List Char → Option Nat
  | [] => none
  | text => radix.readAfter 0 text

/-- The number below `limit` that a run of digits denotes; one plus sign may precede it. -/
def readBelow? (radix : Radix) (limit : Nat) (text : List Char) : Option Nat :=
  let digits := match text with
    | '+' :: rest => rest
    | text => text
  (radix.read? digits).filter (· < limit)

/-- The number that a run of digits denotes; one sign may precede it. -/
def readSigned? (radix : Radix) : List Char → Option Int
  | '-' :: rest => (radix.read? rest).map fun number => -(number : Int)
  | '+' :: rest => (radix.read? rest).map Int.ofNat
  | text => (radix.read? text).map Int.ofNat

end Radix

end SicAssembler
