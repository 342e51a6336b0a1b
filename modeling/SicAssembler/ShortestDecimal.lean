/-
This file writes a floating point number with the fewest digits that read back
as that number. A number is taken apart into a mantissa and a power of two; the
reals that round to it form an interval around it, whose ends belong to it when
the mantissa is even. For each number of digits in turn, the two decimals next
to the number are tried, and the first that lies in the interval is taken, the
closer one if both do.

Numbers whose leading digit has an exponent between -5 and 15 are written with
a decimal point and at least one digit behind it, all others with an exponent.
-/

import SicAssembler.Text.Numeral

namespace SicAssembler

/-! ### Binary parts -/

/-- A positive binary number: the mantissa times a power of two. -/
structure BinaryParts where
  mantissa : Nat
  exponent : Int
deriving DecidableEq, Repr

namespace BinaryParts

/-- The number of values of the stored part of a mantissa. -/
def storedMantissas : Nat := 0x10000000000000

/-- The parts of the number whose bits, without the sign, are given. -/
def ofBits (bits : Nat) : BinaryParts :=
  let stored := bits % storedMantissas
  let scale : Nat := bits / storedMantissas % 0x800
  if scale = 0 then ⟨stored, -1074⟩
  else ⟨storedMantissas + stored, (scale : Int) - 1075⟩

/-- Whether the number below lies at half the usual distance. -/
def isCloserBelow (parts : BinaryParts) : Bool :=
  parts.mantissa = storedMantissas && parts.exponent != -1074

end BinaryParts

/-! ### The interval around a number -/

/-- The reals that round to a number, as numerators over a common denominator. -/
structure RoundingInterval where
  lower : Nat
  value : Nat
  upper : Nat
  denominator : Nat
  /-- Whether the ends belong to the interval. -/
  closed : Bool
deriving DecidableEq, Repr

namespace RoundingInterval

/-- The interval of a number, in quarters of the unit of its mantissa. -/
def ofParts (parts : BinaryParts) : RoundingInterval :=
  let quarters := 4 * parts.mantissa
  let factor := Nat.pow 2 (parts.exponent - 2).toNat
  { lower := (if parts.isCloserBelow then quarters - 1 else quarters - 2) * factor
    value := quarters * factor
    upper := (quarters + 2) * factor
    denominator := Nat.pow 2 (2 - parts.exponent).toNat
    closed := parts.mantissa % 2 = 0 }

/-- Whether the number reaches the given power of ten. -/
def reaches (interval : RoundingInterval) (exponent : Int) : Bool :=
  interval.denominator * Nat.pow 10 exponent.toNat ≤
    interval.value * Nat.pow 10 (-exponent).toNat

/-- The exponent of the leading digit of a number: the first from `start` downwards whose power
of ten the number reaches. -/
def leadingExponent (interval : RoundingInterval) : Nat → Int → Int
  | 0, exponent => exponent
  | bound + 1, exponent =>
    if interval.reaches exponent then exponent
    else interval.leadingExponent bound (exponent - 1)

/-- Of the two multiples of a power of ten next to the number, the one that reads back as it,
and the closer one if both do. -/
def neighbour? (interval : RoundingInterval) (exponent : Int) : Option Nat :=
  let unit := interval.denominator * Nat.pow 10 exponent.toNat
  let factor := Nat.pow 10 (-exponent).toNat
  let value := interval.value * factor
  let below := value / unit
  let readsBack (multiple : Nat) : Bool :=
    let point := multiple * unit
    let lower := interval.lower * factor
    let upper := interval.upper * factor
    if interval.closed then lower ≤ point && point ≤ upper else lower < point && point < upper
  let distanceBelow := value - below * unit
  let distanceAbove := (below + 1) * unit - value
  let belowIsCloser := distanceBelow < distanceAbove ||
    (distanceBelow = distanceAbove && below % 2 = 0)
  match readsBack below, readsBack (below + 1) with
  | true, true => some (if belowIsCloser then below else below + 1)
  | true, false => some below
  | false, true => some (below + 1)
  | false, false => none

end RoundingInterval

/-! ### Shortest decimals -/

/-- A positive decimal number: the digits times a power of ten. -/
structure DecimalParts where
  digits : Nat
  exponent : Int
deriving DecidableEq, Repr

namespace DecimalParts

/-- Move the zeros at the end of the digits, up to a number of them, into the exponent. -/
def dropZeros : Nat → DecimalParts → DecimalParts
  | 0, parts => parts
  | bound + 1, parts =>
    if parts.digits != 0 && parts.digits % 10 = 0 then
      dropZeros bound ⟨parts.digits / 10, parts.exponent + 1⟩
    else parts

/-- The most digits that a number needs. -/
def mostDigits : Nat := 17

/-- The decimal with the fewest digits that reads back as the given number. -/
def shortest (parts : BinaryParts) : DecimalParts :=
  let interval := RoundingInterval.ofParts parts
  let leading := interval.leadingExponent 633 308
  let tried := (List.range mostDigits).findSome? fun (extra : Nat) =>
    let exponent := leading - extra
    (interval.neighbour? exponent).map fun digits => (⟨digits, exponent⟩ : DecimalParts)
  (tried.getD ⟨0, 0⟩).dropZeros (mostDigits + 1)

/-- The text of a decimal. -/
def text (parts : DecimalParts) : String :=
  let digits := Radix.decimal.write parts.digits
  let leading := parts.exponent + digits.length - 1
  String.ofList <|
    if leading < -5 || 15 < leading then
      let fraction := digits.drop 1
      digits.take 1 ++ (if fraction.isEmpty then [] else '.' :: fraction) ++
        ['e', if leading < 0 then '-' else '+'] ++ Radix.decimal.write leading.natAbs
    else if leading < 0 then
      ['0', '.'] ++ List.replicate (leading.natAbs - 1) '0' ++ digits
    else
      let whole := leading.toNat + 1
      let fraction := digits.drop whole
      digits.take whole ++ List.replicate (whole - digits.length) '0' ++
        '.' :: (if fraction.isEmpty then ['0'] else fraction)

end DecimalParts

/-- The text of a finite floating point number. -/
def shortestDecimal (number : Float) : String :=
  let bits := number.toBits.toNat
  let magnitude := bits % 0x8000000000000000
  let sign := if bits = magnitude then "" else "-"
  if magnitude = 0 then sign ++ "0.0"
  else sign ++ (DecimalParts.shortest (.ofBits magnitude)).text

end SicAssembler
