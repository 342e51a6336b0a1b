/-
This file assembles a source text: the program is laid out, then its object
program is built, and either step may stop the run. From a finished assembly
come the listing, the text of the object program and the debug sidecar.
-/

import SicAssembler.ObjectProgram
import SicAssembler.Sidecar

namespace SicAssembler

/-- A program that was assembled. -/
structure Assembly where
  layout : Layout
  records : ObjectProgram
deriving DecidableEq

/-- Assemble a source text. -/
def assemble (table : OpcodeTable) (options : Options) (source : String) :
    Except AssemblyError Assembly := do
  let layout ← Layout.ofLines table options (linesOf source)
  let records ← ObjectProgram.ofLayout table options layout
  return { layout := layout, records := records }

namespace Assembly

/-- The listing of the program. -/
def listing (assembly : Assembly) : String := assembly.layout.listing

/-- The text of the object program. -/
def objectText (assembly : Assembly) : String := assembly.records.text

/-- The row of a statement with the source line it came from, without the blanks at its end. -/
def sidecarLine (lines : List String) (statement : Statement) : SidecarLine where
  address := statement.address
  text := (lines[statement.line - 1]?.map fun line =>
    String.ofList (trimEnd line.toList)).getD ""
  lineNumber := statement.line

/-- The sidecar that leads back to the given source text. -/
def sidecar (assembly : Assembly) (source : String) : Sidecar where
  name := assembly.layout.program.name
  start := assembly.layout.program.start
  length := assembly.layout.program.length
  lines := assembly.layout.statements.map (sidecarLine (linesOf source))
  labels := assembly.layout.symbols

end Assembly

/-- Assemble a source text: the text of the object program and that of the sidecar. -/
def assembleWithSidecar (table : OpcodeTable) (options : Options) (source : String) :
    Except AssemblyError (String × String) := do
  let assembly ← assemble table options source
  return (assembly.objectText, (assembly.sidecar source).text)

end SicAssembler
