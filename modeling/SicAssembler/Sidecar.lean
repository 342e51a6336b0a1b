/-
This file defines the debug sidecar that is written next to an object program.
It leads from each row of the listing back to the source line it came from and
keeps the labels in their order of definition. Its text form is a compact JSON
record.
-/

import SicAssembler.Dictionary
import SicAssembler.Json.Writer

namespace SicAssembler

/-- A row of the listing with the source line it came from. -/
structure SidecarLine where
  address : Nat
  text : String
  lineNumber : Nat
deriving DecidableEq, Repr

/-- What a debugger needs to know about an object program. -/
structure Sidecar where
  name : String
  start : Nat
  length : Nat
  lines : List SidecarLine
  labels : Dictionary Nat
deriving DecidableEq

namespace Sidecar

/-- The sidecar of a program without lines and labels. -/
def ofProgram (name : String) (start length : Nat) : Sidecar where
  name := name
  start := start
  length := length
  lines := []
  labels := .empty

/-- Add a line at the end. -/
def appendLine (sidecar : Sidecar) (line : SidecarLine) : Sidecar :=
  { sidecar with lines := sidecar.lines ++ [line] }

/-- Give a label an address; a known label keeps its place. -/
def setLabel (sidecar : Sidecar) (label : String) (address : Nat) : Sidecar :=
  { sidecar with labels := sidecar.labels.insert label address }

/-- The first line at an address. -/
def firstLineAt? (sidecar : Sidecar) (address : Nat) : Option SidecarLine :=
  sidecar.lines.find? fun line => line.address = address

/-- Whether two sidecars say the same; the order of the labels does not matter. -/
def agrees (left right : Sidecar) : Bool :=
  left.name = right.name && left.start = right.start && left.length = right.length &&
    left.lines = right.lines && left.labels.sameEntries right.labels

/-! ### Text form -/

/-- The text of a number. -/
def numberText (number : Nat) : List Char := Radix.decimal.write number

/-- The text of a line. -/
def lineText (line : SidecarLine) : List Char :=
  Json.record
    [Json.member "address" (numberText line.address),
      Json.member "text" (Json.quote line.text.toList),
      Json.member "line_number" (numberText line.lineNumber)]

/-- The text of the labels. -/
def labelsText (labels : Dictionary Nat) : List Char :=
  Json.record (labels.entries.map fun (label, address) =>
    Json.member label (numberText address))

/-- The characters of the text form. -/
def characters (sidecar : Sidecar) : List Char :=
  Json.record
    [Json.member "name" (Json.quote sidecar.name.toList),
      Json.member "start" (numberText sidecar.start),
      Json.member "length" (numberText sidecar.length),
      Json.member "lines" (Json.list (sidecar.lines.map lineText)),
      Json.member "labels" (labelsText sidecar.labels)]

/-- The text form of a sidecar. -/
def text (sidecar : Sidecar) : String := String.ofList sidecar.characters

end Sidecar

end SicAssembler
