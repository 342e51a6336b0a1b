/-
This file packs fragments into text records. Fragments join the open record as
long as it stays within thirty bytes; the first that does not fit opens the
next record. What the statements of a program contribute is a list of
emissions, fragments at their addresses with gaps between them.

There are two ways to pack. The tracked way ends a record at each gap, cuts a
constant that is longer than a record into pieces, and gives every record the
address of its first fragment. The other way disregards gaps, cuts nothing,
and gives the records addresses in fixed steps from the start of the program.
-/

import SicAssembler.ObjectRecord
import SicAssembler.Options

namespace SicAssembler

/-- What a statement contributes to the object program. -/
inductive Emission where
  | fragment (address : Nat) (content : Fragment)
  /-- Nothing, and what follows does not continue what came before. -/
  | gap
deriving DecidableEq, Repr

/-- The most bytes that a text record holds, unless a single fragment is longer. -/
def recordCapacity : Nat := 30

/-- The number of values of a machine word, which addresses are reduced by. -/
def addressWrap : Nat := 0x100000000

/-! ### Greedy packing -/

namespace TextRecord

/-- A record that holds one fragment. -/
def single (address : Nat) (content : Fragment) : TextRecord := ⟨address, [content]⟩

/-- A record with one more fragment at its end. -/
def push (record : TextRecord) (content : Fragment) : TextRecord :=
  { record with fragments := record.fragments ++ [content] }

/-- Whether a fragment still fits into a record. -/
def hasRoom (record : TextRecord) (content : Fragment) : Bool :=
  record.size + content.size ≤ recordCapacity

end TextRecord

/-- Pack emissions into text records, behind the fragments of the open record if there is one. -/
def pack : Option TextRecord → List Emission → List TextRecord
  | pending, [] => pending.toList
  | pending, .gap :: rest => pending.toList ++ pack none rest
  | none, .fragment address content :: rest => pack (some (.single address content)) rest
  | some record, .fragment address content :: rest =>
    if record.hasRoom content then pack (some (record.push content)) rest
    else record :: pack (some (.single address content)) rest

/-! ### Tracked addresses -/

/-- Cut bytes into pieces that fill a record each, and a last piece that may be shorter. The
first argument bounds the number of pieces; the number of bytes is always enough. -/
def cutBytes (address : Nat) : Nat → List UInt8 → List Emission
  | 0, data => [.fragment address (.bytes data)]
  | bound + 1, data =>
    if data.length ≤ recordCapacity then [.fragment address (.bytes data)]
    else
      .fragment address (.bytes (data.take recordCapacity)) ::
        cutBytes ((address + recordCapacity) % addressWrap) bound (data.drop recordCapacity)

/-- Cut an emission that no record can hold. -/
def Emission.cut : Emission → List Emission
  | .fragment address (.bytes data) => cutBytes address data.length data
  | emission => [emission]

/-- The text records of emissions under tracked addresses. -/
def packTracked (emissions : List Emission) : List TextRecord :=
  pack none (emissions.flatMap Emission.cut)

/-! ### Addresses in fixed steps -/

/-- Whether an emission is a fragment. -/
def Emission.isFragment : Emission → Bool
  | .fragment _ _ => true
  | .gap => false

/-- The distance between the addresses of two records. -/
def recordStep : Nat := 3

/-- The text records of emissions with addresses in fixed steps from `start` on. -/
def packFixed (start : Nat) (emissions : List Emission) : List TextRecord :=
  (pack none (emissions.filter Emission.isFragment)).mapIdx fun index record =>
    { record with address := (start + recordStep * index) % addressWrap }

end SicAssembler
