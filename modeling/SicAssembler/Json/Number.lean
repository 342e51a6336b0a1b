/-
This file reads the numbers of a JSON text. A number without fraction and
exponent that fits a 64-bit word, signed or unsigned, is an integer; all others
are floating point numbers. Those are scaled from as many leading digits as an
unsigned word holds by one power of ten, and a number too large for that is out
of range.
-/

import SicAssembler.Text.Numeral

namespace SicAssembler.Json

/-- A number as it is written. -/
structure WrittenNumber where
  negative : Bool
  whole : List Nat
  /-- The digits behind the decimal point, if there is one. -/
  fraction? : Option (List Nat)
  /-- Whether the exponent is negative, and its digits. -/
  exponent? : Option (Bool × List Nat)
deriving DecidableEq, Repr

/-! ### The written form -/

/-- The digits at the start of a text and what follows them. -/
def spanDigits (text : List Char) : List Nat × List Char :=
  (text.takeWhile Radix.decimal.isDigit |>.filterMap Radix.decimal.digit?,
    text.dropWhile Radix.decimal.isDigit)

/-- Read the digits of a fraction or an exponent, of which there must be some. -/
def readDigits (text : List Char) : Option (List Nat × List Char) :=
  match spanDigits text with
  | ([], _) => none
  | found => some found

/-- Read the digits before the decimal point, which start with zero only if that is all. -/
def readWhole (text : List Char) : Option (List Nat × List Char) :=
  match spanDigits text with
  | ([], _) => none
  | (0 :: _ :: _, _) => none
  | found => some found

/-- Read a fraction if there is a decimal point. -/
def readFraction : List Char → Option (Option (List Nat) × List Char)
  | '.' :: rest => (readDigits rest).map fun (digits, rest) => (some digits, rest)
  | text => some (none, text)

/-- Read the exponent behind its mark: an optional sign and digits. -/
def readExponentDigits : List Char → Option (Option (Bool × List Nat) × List Char)
  | '-' :: rest => (readDigits rest).map fun (digits, rest) => (some (true, digits), rest)
  | '+' :: rest => (readDigits rest).map fun (digits, rest) => (some (false, digits), rest)
  | text => (readDigits text).map fun (digits, rest) => (some (false, digits), rest)

/-- Read an exponent if there is an exponent mark. -/
def readExponent : List Char → Option (Option (Bool × List Nat) × List Char)
  | 'e' :: rest => readExponentDigits rest
  | 'E' :: rest => readExponentDigits rest
  | text => some (none, text)

/-- Read a number without a sign, or one whose sign was just passed. -/
def readUnsigned (negative : Bool) (text : List Char) : Option (WrittenNumber × List Char) := do
  let (whole, text) ← readWhole text
  let (fraction?, text) ← readFraction text
  let (exponent?, text) ← readExponent text
  return (⟨negative, whole, fraction?, exponent?⟩, text)

/-- Read a number. -/
def readNumber : List Char → Option (WrittenNumber × List Char)
  | '-' :: rest => readUnsigned true rest
  | text => readUnsigned false text

/-! ### The value -/

/-- The value of a number. -/
inductive Number where
  | natural (value : Nat)
  /-- The negative of the value. -/
  | negative (value : Nat)
  | real (value : Float)

/-- The number denoted by as many digits as it stays within a limit, and the digits left over. -/
def accumulate (limit : Nat) : Nat → List Nat → Nat × List Nat
  | value, [] => (value, [])
  | value, digit :: rest =>
    if limit < value * 10 + digit then (value, digit :: rest)
    else accumulate limit (value * 10 + digit) rest

/-- The largest value of an unsigned word. -/
def largestWord : Nat := 0xFFFFFFFFFFFFFFFF

/-- The largest magnitude of a negative signed word. -/
def largestNegative : Nat := 0x8000000000000000

/-- The largest value of an exponent. -/
def largestExponent : Nat := 0x7FFFFFFF

/-- The largest power of ten that scaling uses. -/
def largestPower : Nat := 308

/-- A power of ten. -/
def powerOfTen (exponent : Nat) : Float := Float.ofScientific 1 false exponent

/-- Scale a number by a power of ten, unless it becomes too large. Powers below the smallest are
reached in steps, of which the first argument bounds the number. -/
def scale : Nat → Float → Int → Option Float
  | bound, value, exponent =>
    if exponent.natAbs ≤ largestPower then
      if exponent < 0 then some (value / powerOfTen exponent.natAbs)
      else
        let scaled := value * powerOfTen exponent.natAbs
        if scaled.isInf then none else some scaled
    else if value == 0 then some value
    else if 0 ≤ exponent then none
    else match bound with
      | 0 => some 0
      | bound + 1 => scale bound (value / powerOfTen largestPower) (exponent + largestPower)

namespace WrittenNumber

/-- The magnitude of a number as a floating point number, unless it is out of range. -/
def magnitude? (number : WrittenNumber) : Option Float :=
  let (leading, left) := accumulate largestWord 0 number.whole
  let fraction := number.fraction?.getD []
  let (significand, unread) := accumulate largestWord leading fraction
  let shift : Int := (left.length : Int) - ((fraction.length : Int) - unread.length)
  let start := (UInt64.ofNat significand).toFloat
  match number.exponent? with
  | none => scale 4 start shift
  | some (negative, digits) =>
    match accumulate largestExponent 0 digits with
    | (value, []) => scale 4 start (if negative then shift - value else shift + value)
    | _ => if significand != 0 && !negative then none else some 0

/-- Whether a number has neither fraction nor exponent. -/
def isWhole (number : WrittenNumber) : Bool :=
  number.fraction?.isNone && number.exponent?.isNone

/-- The value of a number, unless it is out of range. -/
def value? (number : WrittenNumber) : Option Number :=
  let integer := number.whole.foldl (fun value digit => value * 10 + digit) 0
  if number.isWhole && !number.negative && integer ≤ largestWord then some (.natural integer)
  else if number.isWhole && number.negative && integer != 0 && integer ≤ largestNegative then
    some (.negative integer)
  else
    number.magnitude?.map fun magnitude =>
      .real (if number.negative then -magnitude else magnitude)

end WrittenNumber

end SicAssembler.Json
