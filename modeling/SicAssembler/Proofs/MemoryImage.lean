/-
This file proves that the text records of a program whose records have tracked
addresses are its memory image. The image is read off the layout alone: each
statement says which bytes it places at its own address. The object program
knows the address of a record's first byte only, so this is a statement about
both halves of the assembler at once, and it holds for any number of start
directives and reservations and for constants of any length.
-/

import SicAssembler.Assembly
import SicAssembler.Proofs.Emission
import SicAssembler.Proofs.Symbols

namespace SicAssembler

/-! ### The image of a layout -/

/-- The last bytes of a number, the most significant first. -/
def bigEndian : Nat → Nat → List UInt8
  | 0, _ => []
  | count + 1, number => UInt8.ofNat (number / 256 ^ count) :: bigEndian count number

namespace Statement

/-- The 16-bit address that an instruction names: that of the first definition of its operand
among the statements. It is zero if there is no operand, or if a missing definition is
tolerated. -/
def target? (statement : Statement) (statements : List Statement) (policy : Strictness) :
    Option Nat :=
  match statement.operand? with
  | none => some 0
  | some symbol =>
    match firstDefinition? statements symbol, policy with
    | some address, _ => if address < 0x10000 then some address else none
    | none, .lenient => some 0
    | none, .strict => none

/-- The bytes that a statement places in memory. -/
def bytes? (statement : Statement) (table : OpcodeTable) (statements : List Statement)
    (policy : Strictness) : Option (List UInt8) :=
  match statement.operation with
  | .byte => (statement.operand?.bind ByteConstant.read?).map ByteConstant.bytes
  | .word =>
    (statement.operand?.bind fun operand => Radix.decimal.readSigned? operand.toList).map
      fun value => bigEndian 3 (value % 0x1000000).toNat
  | .instruction =>
    (table.get? statement.mnemonic).bind fun opcode =>
      (statement.target? statements policy).map fun address => opcode :: bigEndian 2 address
  | .start | .finish | .reserveWords | .reserveBytes => some []

/-- The bytes that a statement places in memory, each with its address. -/
def image? (statement : Statement) (table : OpcodeTable) (statements : List Statement)
    (policy : Strictness) : Option (List (Nat × UInt8)) :=
  (statement.bytes? table statements policy).map (placedAt statement.address)

end Statement

/-- The memory image of a layout: what its statements place in memory, in order. -/
def Layout.image? (layout : Layout) (table : OpcodeTable) (policy : Strictness) :
    Option (List (Nat × UInt8)) :=
  (layout.statements.mapM fun statement : Statement =>
    statement.image? table layout.statements policy).map List.flatten

/-- The bytes of the text records of an object program, each with its address. -/
def ObjectProgram.image (records : ObjectProgram) : List (Nat × UInt8) :=
  (records.filterMap ObjectRecord.textRecord?).flatMap TextRecord.image

/-! ### Emissions and the image -/

theorem Statement.target?_eq_some {statement : Statement} {statements : List Statement}
    {symbols : SymbolTable} {policy : Strictness} {address : UInt16}
    (resolved : ∀ label, symbols.get? label = firstDefinition? statements label)
    (named : statement.targetAddress symbols policy = .ok address) :
    statement.target? statements policy = some address.toNat := by
  unfold targetAddress at named
  unfold target?
  cases operand : statement.operand? with
  | none =>
    rw [operand] at named
    cases named
    rfl
  | some symbol =>
    simp only [operand, resolved symbol] at named ⊢
    cases definition : firstDefinition? statements symbol with
    | none =>
      rw [definition] at named
      cases policy with
      | lenient =>
        cases named
        rfl
      | strict => cases named
    | some found =>
      simp only [definition] at named ⊢
      by_cases small : found < targetCount
      · rw [if_pos small] at named
        cases named
        rw [UInt16.toNat_ofNat_of_lt' small]
        exact if_pos small
      · rw [if_neg small] at named
        cases named

/-- What a statement emits is what it places in memory. -/
theorem Statement.image?_eq_some {statement : Statement} {table : OpcodeTable}
    {statements : List Statement} {symbols : SymbolTable} {policy : Strictness}
    {emission : Emission}
    (resolved : ∀ label, symbols.get? label = firstDefinition? statements label)
    (emitted : statement.emission table symbols policy = .ok emission) :
    statement.image? table statements policy = some emission.image := by
  unfold Statement.emission at emitted
  unfold Statement.image? Statement.bytes?
  cases operation : statement.operation <;> simp only [operation] at emitted ⊢
  case start | finish | reserveWords | reserveBytes =>
    cases emitted
    rfl
  case word =>
    obtain ⟨word, read, result⟩ := bind_eq_ok_iff.mp emitted
    obtain ⟨operand, present, value, numeral, fits, rfl⟩ := word_eq_ok_iff.mp read
    cases result
    have small : (value % 0x1000000).toNat < UInt32.size := by
      have := Int.emod_lt_of_pos value (show (0 : Int) < 0x1000000 by decide)
      simp only [UInt32.size]
      omega
    rw [present, Option.bind_some, numeral, Option.map_some, Option.map_some, Emission.image,
      Fragment.toBytes, UInt32.toNat_ofNat_of_lt' small]
    rfl
  case byte =>
    obtain ⟨constant, read, result⟩ := bind_eq_ok_iff.mp emitted
    obtain ⟨operand, present, value⟩ := constant_eq_ok_iff.mp read
    cases result
    rw [present, Option.bind_some, value]
    rfl
  case instruction =>
    obtain ⟨content, read, result⟩ := bind_eq_ok_iff.mp emitted
    obtain ⟨opcode, address, known, named, rfl⟩ := instruction_eq_ok read
    cases result
    rw [known, Option.bind_some, target?_eq_some resolved named]
    rfl

/-- The statements of a walk place in memory what they emit. -/
theorem Emitting.mapM_image? {table : OpcodeTable} {symbols : SymbolTable} {policy : Strictness}
    {cursor last : Cursor} {statements all : List Statement} {emissions : List Emission}
    (emitting : Emitting table symbols policy cursor statements last emissions)
    (resolved : ∀ label, symbols.get? label = Statement.firstDefinition? all label) :
    (statements.mapM fun statement : Statement =>
        statement.image? table all policy).map List.flatten =
      some (emissions.flatMap Emission.image) := by
  induction emitting with
  | exhausted cursor => rfl
  | @closed cursor statement closes =>
    have nothing : statement.image? table all policy = some [] := by
      simp [Statement.image?, Statement.bytes?, closes.finishes, placedAt]
    simp [nothing]
  | step moves emitted later inductionHypothesis =>
    obtain ⟨images, found, flat⟩ := Option.map_eq_some_iff.mp inductionHypothesis
    rw [List.mapM_cons, Statement.image?_eq_some resolved emitted, found]
    simp [flat]

/-! ### Assembled programs -/

/-- An assembled program was laid out, and its records were built from the layout. -/
theorem assemble_eq_ok {table : OpcodeTable} {options : Options} {source : String}
    {assembly : Assembly} (assembled : assemble table options source = .ok assembly) :
    Layout.ofLines table options (linesOf source) = .ok assembly.layout ∧
      ObjectProgram.ofLayout table options assembly.layout = .ok assembly.records := by
  obtain ⟨layout, laidOut, rest⟩ := bind_eq_ok_iff.mp assembled
  obtain ⟨records, built, result⟩ := bind_eq_ok_iff.mp rest
  cases result
  exact ⟨laidOut, built⟩

theorem ObjectProgram.filterMap_textRecord? (name : String) (start length : Nat)
    (texts : List TextRecord) :
    (ObjectRecord.header name start length :: texts.map ObjectRecord.text ++
      [ObjectRecord.finish start]).filterMap ObjectRecord.textRecord? = texts := by
  rw [List.cons_append, List.filterMap_cons, List.filterMap_append, List.filterMap_map]
  simp [ObjectRecord.textRecord?, Function.comp_def]

/-- The records of an assembled program, and the walk with the emissions that they are packed
from. -/
theorem assemble_emitting {table : OpcodeTable} {options : Options} {source : String}
    {assembly : Assembly} (assembled : assemble table options source = .ok assembly) :
    ∃ emissions last,
      Emitting table assembly.layout.symbols options.undefinedSymbols {}
        assembly.layout.statements last emissions ∧
      assembly.layout.program.start = last.start ∧
      assembly.layout.program.length = last.counter - last.start ∧
      assembly.records =
        .header programName assembly.layout.program.start assembly.layout.program.length ::
          (ObjectProgram.textRecords options.addressing assembly.layout.program.start
            emissions).map .text ++ [.finish assembly.layout.program.start] := by
  obtain ⟨laidOut, built⟩ := assemble_eq_ok assembled
  obtain ⟨found, walks, layout⟩ := Layout.ofLines_eq_ok laidOut
  obtain ⟨emissions, emitted, records⟩ := ObjectProgram.ofStatements_eq_ok built
  rw [layout] at emitted records ⊢
  exact ⟨emissions, found.cursor, (walk_traces walks).emitting emitted, rfl, rfl, records⟩

theorem assemble_tracked {table : OpcodeTable} {options : Options} {source : String}
    {assembly : Assembly} (tracked : options.addressing = .tracked)
    (assembled : assemble table options source = .ok assembly) :
    ∃ emissions last,
      Emitting table assembly.layout.symbols options.undefinedSymbols {}
        assembly.layout.statements last emissions ∧
      assembly.layout.program.start = last.start ∧
      assembly.layout.program.length = last.counter - last.start ∧
      assembly.records =
        .header programName assembly.layout.program.start assembly.layout.program.length ::
          (packTracked emissions).map .text ++ [.finish assembly.layout.program.start] := by
  obtain ⟨emissions, last, emitting, start, length, records⟩ := assemble_emitting assembled
  rw [tracked] at records
  exact ⟨emissions, last, emitting, start, length, records⟩

/-- The text records of a program with tracked addresses are its memory image: they hold the same
bytes at the same addresses in the same order. -/
theorem assemble_image (table : OpcodeTable) (options : Options) (source : String)
    (assembly : Assembly) (tracked : options.addressing = .tracked)
    (assembled : assemble table options source = .ok assembly) :
    assembly.layout.image? table options.undefinedSymbols =
      some (ObjectProgram.image assembly.records) := by
  obtain ⟨emissions, last, emitting, -, -, records⟩ := assemble_tracked tracked assembled
  have joined : Contiguous none emissions :=
    emitting.contiguous fun _ absent => nomatch absent
  have resolved := Layout.get?_symbols (assemble_eq_ok assembled).1
  rw [Layout.image?, emitting.mapM_image? resolved, ObjectProgram.image, records,
    ObjectProgram.filterMap_textRecord?, flatMap_image_packTracked joined]

/-- The image of a program that goes back, reserves bytes, cuts a constant, defines a label twice
and names a symbol that is not defined. -/
theorem assemble_image_of_going_back :
    let constant := "ABCDEFGHIJKLMNOPQRSTUVWXYZ01234"
    ∃ assembly, assemble .sicMachine {} ("P START 10\nA LDA B\n RESB 2\n" ++
        " BYTE C'" ++ constant ++ "'\nQ START 8\nB WORD -1\nB LDA NONE\n END\n") =
          .ok assembly ∧
      assembly.objectText = "H^COPY^000008^000006\nT^000010^000008\n" ++
        "T^000015^4142434445464748494A4B4C4D4E4F505152535455565758595A30313233\n" ++
        "T^000033^34\nT^000008^FFFFFF^000000\nE^000008\n" ∧
      assembly.layout.image? .sicMachine .lenient =
        some (ObjectProgram.image assembly.records) ∧
      ObjectProgram.image assembly.records = placedAt 0x10 [0x00, 0x00, 0x08] ++
        placedAt 0x15 constant.toUTF8.data.toList ++
        placedAt 0x08 [0xFF, 0xFF, 0xFF, 0x00, 0x00, 0x00] := by
  intro constant
  refine exists_ok_and
    (fun assembly => assembly.objectText = "H^COPY^000008^000006\nT^000010^000008\n" ++
        "T^000015^4142434445464748494A4B4C4D4E4F505152535455565758595A30313233\n" ++
        "T^000033^34\nT^000008^FFFFFF^000000\nE^000008\n" ∧
      ObjectProgram.image assembly.records = placedAt 0x10 [0x00, 0x00, 0x08] ++
        placedAt 0x15 constant.toUTF8.data.toList ++
        placedAt 0x08 [0xFF, 0xFF, 0xFF, 0x00, 0x00, 0x00])
    (by decide +kernel) fun assembly assembled checked => ?_
  obtain ⟨object, placed⟩ := of_decide_eq_true checked
  exact ⟨object, assemble_image .sicMachine {} _ assembly rfl assembled, placed⟩

end SicAssembler
