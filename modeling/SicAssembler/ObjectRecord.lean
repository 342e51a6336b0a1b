/-
This file defines the records of an object program and their text. A header
names the program and its extent, text records hold the bytes to be placed at
an address, and an end record names the address of the first instruction. The
fields of a record are divided by carets and its numbers are written in base
sixteen, addresses with at least six digits and bytes with two.
-/

import SicAssembler.Text.Numeral

namespace SicAssembler

/-! ### Fragments -/

/-- The bytes that one statement contributes to a text record. -/
inductive Fragment where
  | instruction (opcode : UInt8) (address : UInt16)
  | bytes (data : List UInt8)
  /-- The low 24 bits of the value. -/
  | word (value : UInt32)
deriving DecidableEq, Repr

namespace Fragment

/-- The byte of a number that counts in the given unit. -/
def byteAt (number unit : Nat) : UInt8 := UInt8.ofNat (number / unit)

/-- The bytes of a fragment, most significant first. -/
def toBytes : Fragment → List UInt8
  | instruction opcode address => [opcode, byteAt address.toNat 0x100, byteAt address.toNat 1]
  | bytes data => data
  | word value => [byteAt value.toNat 0x10000, byteAt value.toNat 0x100, byteAt value.toNat 1]

/-- The number of bytes of a fragment. -/
def size : Fragment → Nat
  | instruction _ _ => 3
  | bytes data => data.length
  | word _ => 3

theorem length_toBytes (fragment : Fragment) : fragment.toBytes.length = fragment.size := by
  cases fragment <;> rfl

/-- The text of a fragment: two digits for each of its bytes. -/
def text (fragment : Fragment) : String :=
  String.join (fragment.toBytes.map fun byte => hexadecimalPadded 2 byte.toNat)

end Fragment

/-! ### Records -/

/-- The fragments that lie one after the other from an address on. -/
structure TextRecord where
  address : Nat
  fragments : List Fragment
deriving DecidableEq, Repr

namespace TextRecord

/-- The number of bytes of a text record. -/
def size (record : TextRecord) : Nat :=
  record.fragments.foldr (fun fragment total => fragment.size + total) 0

/-- The bytes of a text record. -/
def toBytes (record : TextRecord) : List UInt8 := record.fragments.flatMap Fragment.toBytes

end TextRecord

/-- A record of an object program. -/
inductive ObjectRecord where
  | header (name : String) (start length : Nat)
  | text (record : TextRecord)
  /-- The end record, with the address at which execution begins. -/
  | finish (start : Nat)
deriving DecidableEq, Repr

namespace ObjectRecord

/-- An address or a length as it stands in a record. -/
def sixDigits (number : Nat) : String := hexadecimalPadded 6 number

/-- The line that a record is written on. -/
def line : ObjectRecord → String
  | header name start length => "^".intercalate ["H", name, sixDigits start, sixDigits length]
  | text record =>
    "^".intercalate ("T" :: sixDigits record.address :: record.fragments.map Fragment.text)
  | finish start => "^".intercalate ["E", sixDigits start]

/-- The text record that a record is, if it is one. -/
def textRecord? : ObjectRecord → Option TextRecord
  | text record => some record
  | _ => none

end ObjectRecord

end SicAssembler
