/-
This file proves that blank lines and comments only count. The number of a line
is carried along with its fields, into its statement and into the cause of a run
that stops there, but nothing is ever decided by it. So a run over lines that
are numbered in another way is the same run with the new numbers in it.

A line without fields that is put into a source leaves the fields of all other
lines as they are, and adds one to the numbers of those behind it. A line has no
fields exactly if it is blank or its first character that is not blank is a
period.
-/

import SicAssembler.Proofs.LinePrefixes
import SicAssembler.Proofs.ObjectText
import SicAssembler.Proofs.Renaming
import SicAssembler.Proofs.TrailingLayout

namespace SicAssembler

/-! ### Renumbering -/

/-- The statement under the new number of its line. -/
def Statement.renumber (change : Nat → Nat) (statement : Statement) : Statement :=
  { statement with line := change statement.line }

/-- The walk under new line numbers. -/
def Walk.renumber (change : Nat → Nat) (found : Walk) : Walk :=
  { found with statements := found.statements.map (Statement.renumber change) }

/-- The layout under new line numbers. -/
def Layout.renumber (change : Nat → Nat) (layout : Layout) : Layout :=
  { layout with statements := layout.statements.map (Statement.renumber change) }

/-- The assembly under new line numbers. Nothing but the statements has any. -/
def Assembly.renumber (change : Nat → Nat) (assembly : Assembly) : Assembly :=
  { assembly with layout := assembly.layout.renumber change }

/-- The cause under the new number of the line that it names, if it names one. -/
def AssemblyError.renumber (change : Nat → Nat) : AssemblyError → AssemblyError
  | emptyOpcodeTable => emptyOpcodeTable
  | invalidMnemonic mnemonic line => invalidMnemonic mnemonic (change line)
  | malformedNumber field value line => malformedNumber field value (change line)
  | malformedTableEntry line text => malformedTableEntry (change line) text
  | malformedConstant operand line => malformedConstant operand (change line)
  | undefinedSymbol symbol line => undefinedSymbol symbol (change line)
  | duplicateLabel label line => duplicateLabel label (change line)
  | addressOutOfRange address line => addressOutOfRange address (change line)

/-- The outcome of a run under new line numbers, where `result` renumbers its result. -/
abbrev renumberRun {First Second : Type} (change : Nat → Nat) (result : First → Second) :
    Except AssemblyError First → Except AssemblyError Second :=
  mapRun (AssemblyError.renumber change) result

variable (change : Nat → Nat)

/-! ### Statements -/

namespace Statement

theorem operand?_renumber (statement : Statement) :
    (statement.renumber change).operand? = statement.operand? := rfl

theorem operandFor_renumber (statement : Statement) (field : NumericField) :
    (statement.renumber change).operandFor field =
      renumberRun change id (statement.operandFor field) := by
  unfold operandFor
  rw [operand?_renumber]
  cases statement.operand? <;> rfl

theorem number_renumber (statement : Statement) (radix : Radix) (field : NumericField) :
    (statement.renumber change).number radix field =
      renumberRun change id (statement.number radix field) := by
  unfold number
  refine mapRun_bind (statement.operandFor_renumber change field) fun operand => ?_
  rw [id_eq]
  cases radix.readBelow? wordValues operand.toList <;> rfl

theorem word_renumber (statement : Statement) :
    (statement.renumber change).word = renumberRun change id statement.word := by
  unfold word
  refine mapRun_bind (statement.operandFor_renumber change .wordValue) fun operand => ?_
  rw [id_eq]
  cases (Radix.decimal.readSigned? operand.toList).filter fitsWord <;> rfl

theorem constant_renumber (statement : Statement) :
    (statement.renumber change).constant = renumberRun change id statement.constant := by
  unfold constant
  simp only [operand?_renumber]
  cases ByteConstant.read? (statement.operand?.getD absentText) <;> rfl

theorem size_renumber (statement : Statement) :
    (statement.renumber change).size = renumberRun change id statement.size := by
  have kind : (statement.renumber change).operation = statement.operation := rfl
  unfold size
  rw [kind]
  cases statement.operation with
  | start => rfl
  | finish => rfl
  | word => rfl
  | instruction => rfl
  | reserveWords =>
    rw [number_renumber]
    cases statement.number .decimal .reservedWords <;> rfl
  | reserveBytes => exact statement.number_renumber change .decimal .reservedBytes
  | byte =>
    rw [constant_renumber]
    cases statement.constant <;> rfl

end Statement

/-! ### The walk -/

namespace Cursor

theorem statement_renumber (cursor : Cursor) (table : OpcodeTable) (line : Nat)
    (fields : Fields) :
    cursor.statement table (change line) fields =
      renumberRun change (Statement.renumber change) (cursor.statement table line fields) := by
  unfold statement
  cases Operation.ofMnemonic? table fields.mnemonic <;> rfl

theorem defineLabel_renumber (cursor : Cursor) (policy : Strictness) (statement : Statement) :
    cursor.defineLabel policy (statement.renumber change) =
      renumberRun change id (cursor.defineLabel policy statement) := by
  have labels : (statement.renumber change).label? = statement.label? := rfl
  unfold defineLabel
  rw [labels]
  cases statement.label? with
  | none => rfl
  | some label =>
    dsimp only
    split
    · cases policy <;> rfl
    · rfl

theorem moveBy_renumber (cursor : Cursor) (size line : Nat) :
    cursor.moveBy size (change line) = renumberRun change id (cursor.moveBy size line) := by
  unfold moveBy
  dsimp only
  split <;> rfl

theorem moveTo_renumber (cursor : Cursor) (statement : Statement) :
    cursor.moveTo (statement.renumber change) =
      renumberRun change id (cursor.moveTo statement) := by
  unfold moveTo
  refine mapRun_bind (statement.number_renumber change .hexadecimal .startAddress) ?_
  intro start
  rw [id_eq]
  split <;> rfl

/-- A statement takes the same effect under a new number. -/
theorem settle_renumber (cursor : Cursor) (policy : Strictness) (statement : Statement) :
    cursor.settle policy (statement.renumber change) =
      renumberRun change (Prod.map (Statement.renumber change) id)
        (cursor.settle policy statement) := by
  have kind : (statement.renumber change).operation = statement.operation := rfl
  have labels : (statement.renumber change).label? = statement.label? := rfl
  unfold settle
  rw [kind]
  split
  · exact mapRun_bind (cursor.moveTo_renumber change statement) fun moved => rfl
  · rw [labels]
    cases statement.label? <;> rfl
  · refine mapRun_bind (cursor.defineLabel_renumber change policy statement) ?_
    intro labelled
    refine mapRun_bind (statement.size_renumber change) fun size => ?_
    exact mapRun_bind (labelled.moveBy_renumber change size statement.line) fun moved => rfl

theorem place_renumber (cursor : Cursor) (table : OpcodeTable) (policy : Strictness) (line : Nat)
    (fields : Fields) :
    cursor.place table policy (change line) fields =
      renumberRun change (Prod.map (Statement.renumber change) id)
        (cursor.place table policy line fields) := by
  unfold place
  refine mapRun_bind (cursor.statement_renumber change table line fields) ?_
  exact fun statement => cursor.settle_renumber change policy statement

end Cursor

/-- A walk over renumbered lines is the walk under new line numbers. -/
theorem walk_renumber (table : OpcodeTable) (policy : Strictness) (cursor : Cursor)
    (lines : List (Nat × Fields)) :
    walk table policy cursor (lines.map (Prod.map change id)) =
      renumberRun change (Walk.renumber change) (walk table policy cursor lines) := by
  induction lines generalizing cursor with
  | nil => rfl
  | cons entry rest inductionHypothesis =>
    obtain ⟨line, fields⟩ := entry
    rw [List.map_cons, Prod.map_apply, id_eq, walk, walk]
    refine mapRun_bind (cursor.place_renumber change table policy line fields) ?_
    rintro ⟨statement, moved⟩
    show (if statement.operation = .finish then _ else _) =
      renumberRun _ _ (if statement.operation = .finish then _ else _)
    split
    · rfl
    · exact mapRun_bind (inductionHypothesis moved) fun later => rfl

/-! ### The object program -/

namespace Statement

theorem targetAddress_renumber (statement : Statement) (symbols : SymbolTable)
    (policy : Strictness) :
    (statement.renumber change).targetAddress symbols policy =
      renumberRun change id (statement.targetAddress symbols policy) := by
  unfold targetAddress
  rw [operand?_renumber]
  cases statement.operand? with
  | none => rfl
  | some symbol =>
    dsimp only
    cases symbols.get? symbol with
    | none => cases policy <;> rfl
    | some address =>
      dsimp only
      split <;> rfl

theorem instruction_renumber (statement : Statement) (table : OpcodeTable)
    (symbols : SymbolTable) (policy : Strictness) :
    (statement.renumber change).instruction table symbols policy =
      renumberRun change id (statement.instruction table symbols policy) := by
  have mnemonics : (statement.renumber change).mnemonic = statement.mnemonic := rfl
  unfold Statement.instruction
  rw [mnemonics]
  cases table.get? statement.mnemonic with
  | none => rfl
  | some opcode =>
    exact mapRun_bind (statement.targetAddress_renumber change symbols policy)
      fun address => rfl

/-- A statement emits the same under a new number. -/
theorem emission_renumber (statement : Statement) (table : OpcodeTable) (symbols : SymbolTable)
    (policy : Strictness) :
    (statement.renumber change).emission table symbols policy =
      renumberRun change id (statement.emission table symbols policy) := by
  have kind : (statement.renumber change).operation = statement.operation := rfl
  unfold emission
  rw [kind]
  cases statement.operation with
  | start => rfl
  | finish => rfl
  | reserveWords => rfl
  | reserveBytes => rfl
  | word => exact mapRun_bind (statement.word_renumber change) fun value => rfl
  | byte => exact mapRun_bind (statement.constant_renumber change) fun value => rfl
  | instruction =>
    exact mapRun_bind (statement.instruction_renumber change table symbols policy)
      fun content => rfl

end Statement

/-- The object program of a layout under new line numbers is the same. -/
theorem ObjectProgram.ofLayout_renumber (table : OpcodeTable) (options : Options)
    (layout : Layout) :
    ofLayout table options (layout.renumber change) =
      renumberRun change id (ofLayout table options layout) := by
  have before : beforeFinish (layout.statements.map (Statement.renumber change)) =
      (beforeFinish layout.statements).map (Statement.renumber change) := by
    unfold beforeFinish
    rw [List.takeWhile_map]
    rfl
  unfold ofLayout ofStatements
  split
  · rfl
  · rw [Layout.renumber, before]
    refine mapRun_bind (mapRun_mapM (fun statement => ?_) _) fun emissions => rfl
    exact statement.emission_renumber change table layout.symbols options.undefinedSymbols

/-- Lines with the same fields under other numbers are assembled alike under these numbers. -/
theorem assembleLines_renumber {table : OpcodeTable} {options : Options}
    {lines others : List String}
    (renumbered : numberedFields options.fieldStyle others =
      (numberedFields options.fieldStyle lines).map (Prod.map change id)) :
    assembleLines table options others =
      renumberRun change (Assembly.renumber change) (assembleLines table options lines) := by
  have laidOut : Layout.ofLines table options others =
      renumberRun change (Layout.renumber change) (Layout.ofLines table options lines) := by
    unfold Layout.ofLines
    split
    · rfl
    · rw [renumbered]
      exact mapRun_bind (walk_renumber change table options.duplicateLabels {} _)
        fun found => rfl
  refine mapRun_bind laidOut fun layout => ?_
  exact mapRun_bind (ObjectProgram.ofLayout_renumber change table options layout)
    fun records => rfl

/-- The listing shows no line numbers. -/
theorem Assembly.listing_renumber (assembly : Assembly) :
    (assembly.renumber change).listing = assembly.listing := by
  show String.join ((assembly.layout.statements.map (Statement.renumber change)).map _) = _
  rw [List.map_map]
  rfl

/-! ### Lines that are put in -/

/-- The number that a line has after another one was put in behind the first `index` lines. -/
def numberAfter (index number : Nat) : Nat := if number ≤ index then number else number + 1

theorem numberedFrom_succ (style : FieldStyle) (lines : List String) {index first : Nat}
    (behind : index < first) :
    numberedFrom style (first + 1) lines =
      (numberedFrom style first lines).map (Prod.map (numberAfter index) id) := by
  induction lines generalizing first with
  | nil => rfl
  | cons line rest inductionHypothesis =>
    have later := inductionHypothesis (Nat.lt_succ_of_lt behind)
    cases divided : Fields.ofLine? style line with
    | none =>
      rw [numberedFrom_cons_of_none divided, numberedFrom_cons_of_none divided]
      exact later
    | some fields =>
      have grows : numberAfter index first = first + 1 := if_neg (Nat.not_le_of_lt behind)
      rw [numberedFrom_cons_of_some divided, numberedFrom_cons_of_some divided, List.map_cons,
        Prod.map_apply, grows, later]
      rfl

/-- A line without fields leaves the fields of the others as they are. -/
theorem numberedFrom_insert {style : FieldStyle} {line : String}
    (skipped : Fields.ofLine? style line = none) (lines : List String) (index first : Nat) :
    numberedFrom style (first + 1) (lines.take index ++ line :: lines.drop index) =
      (numberedFrom style (first + 1) lines).map (Prod.map (numberAfter (first + index)) id) := by
  induction lines generalizing index first with
  | nil =>
    rw [List.take_nil, List.drop_nil, List.nil_append, numberedFrom_cons_of_none skipped]
    rfl
  | cons head rest inductionHypothesis =>
    cases index with
    | zero =>
      rw [List.take_zero, List.drop_zero, List.nil_append, numberedFrom_cons_of_none skipped]
      exact numberedFrom_succ style (head :: rest) (Nat.lt_succ_self first)
    | succ index =>
      have later := inductionHypothesis index (first + 1)
      rw [Nat.add_right_comm first 1 index, Nat.add_assoc first index 1] at later
      rw [List.take_succ_cons, List.drop_succ_cons, List.cons_append]
      cases divided : Fields.ofLine? style head with
      | none =>
        rw [numberedFrom_cons_of_none divided, numberedFrom_cons_of_none divided]
        exact later
      | some fields =>
        have stays : numberAfter (first + (index + 1)) (first + 1) = first + 1 :=
          if_pos (by omega)
        rw [numberedFrom_cons_of_some divided, numberedFrom_cons_of_some divided, List.map_cons,
          Prod.map_apply, stays, later]
        rfl

/-- Whether a line is blank, or its first character that is not blank is a period. -/
def isRemark (line : List Char) : Bool := (line.dropWhile isBlank).head?.all (· = '.')

/-- The lines without fields are the blank ones and the comments. -/
theorem isSkipped_ofList (line : List Char) :
    Fields.isSkipped (String.ofList line) = isRemark line := by
  unfold Fields.isSkipped isRemark
  rw [String.toList_ofList, ← Fields.tokens_dropWhile_isBlank]
  cases found : line.dropWhile isBlank with
  | nil => rfl
  | cons character rest =>
    have ended := beginsWith_dropWhile isBlank line
    rw [found] at ended
    have token : Fields.isTokenCharacter character = true := (Bool.not_eq_true' _).mpr ended
    have begins : beginsWith Fields.isTokenCharacter (character :: rest) = true := token
    rw [Fields.tokens_of_beginsWith begins, List.takeWhile_cons_of_pos token]
    simp

/-- A text with a line put in behind its first `index` lines. -/
def insertLine (index : Nat) (line : List Char) (source : String) : String :=
  let found := pieces (· = '\n') source.toList
  String.ofList (['\n'].intercalate (found.take index ++ line :: found.drop index))

theorem pieces_insertLine (index : Nat) {line : List Char} (whole : '\n' ∉ line)
    (source : String) :
    pieces (· = '\n') (insertLine index line source).toList =
      (pieces (· = '\n') source.toList).take index ++
        line :: (pieces (· = '\n') source.toList).drop index := by
  have plain : ∀ piece ∈ pieces (· = '\n') source.toList, '\n' ∉ piece := by
    intro piece member inside
    have refused := refused_of_mem_pieces piece member '\n' inside
    cases refused
  unfold insertLine
  rw [String.toList_ofList, pieces_intercalate (by simp)]
  refine List.forall_mem_append.mpr
    ⟨fun piece early => plain piece (List.mem_of_mem_take early), ?_⟩
  exact List.forall_mem_cons.mpr
    ⟨whole, fun piece late => plain piece (List.mem_of_mem_drop late)⟩

theorem numberedFields_insertLine (style : FieldStyle) (index : Nat) {line : List Char}
    (remark : isRemark line = true) (whole : '\n' ∉ line) (source : String) :
    numberedFields style (linesOf (insertLine index line source)) =
      (numberedFields style (linesOf source)).map (Prod.map (numberAfter index) id) := by
  have skipped : Fields.ofLine? style (String.ofList line) = none :=
    Fields.ofLine?_of_isSkipped ((isSkipped_ofList line).trans remark) style
  have inserted := numberedFrom_insert skipped
    ((pieces (· = '\n') source.toList).map String.ofList) index 0
  rw [Nat.zero_add, Nat.zero_add] at inserted
  rw [numberedFields_eq, numberedFields_eq, linesOf, linesOf, lines, lines,
    numberedFrom_linesOfPieces, numberedFrom_linesOfPieces, pieces_insertLine index whole,
    ← inserted, List.map_append, List.map_cons, List.map_take, List.map_drop]

/-- A blank line or a comment that is put into a source changes nothing but line numbers: the
outcome is the same, be it an assembly or a cause that stops either pass, and the numbers of the
lines behind the new one grow by one. The listing shows none of them. -/
theorem assemble_insertLine (table : OpcodeTable) (options : Options) (source : String)
    (index : Nat) (line : List Char) (remark : isRemark line = true) (whole : '\n' ∉ line) :
    assemble table options (insertLine index line source) =
      renumberRun (numberAfter index) (Assembly.renumber (numberAfter index))
        (assemble table options source) ∧
    ∀ assembly, assemble table options source = .ok assembly →
      let renumbered := assembly.renumber (numberAfter index)
      renumbered.listing = assembly.listing ∧ renumbered.records = assembly.records ∧
        renumbered.layout.symbols = assembly.layout.symbols ∧
        renumbered.layout.program = assembly.layout.program := by
  constructor
  · rw [assemble_eq_assembleLines, assemble_eq_assembleLines]
    exact assembleLines_renumber (numberAfter index)
      (numberedFields_insertLine options.fieldStyle index remark whole source)
  · exact fun assembly _ => ⟨assembly.listing_renumber (numberAfter index), rfl, rfl, rfl⟩

/-- A comment behind wide blanks is put between two lines. A symbol that is not defined is
tolerated or stops the second pass behind it, a wrong operand stops the first pass before it. -/
theorem assemble_insertLine_before_faults :
    let source := "P START 10\nA LDA B\n END"
    let line := "\u3000\t.END".toList
    isRemark line = true ∧ '\n' ∉ line ∧
    insertLine 1 line source = "P START 10\n\u3000\t.END\nA LDA B\n END" ∧
    (∃ assembly, assemble .sicMachine {} source = .ok assembly ∧
      assemble .sicMachine {} (insertLine 1 line source) =
        .ok (assembly.renumber (numberAfter 1)) ∧
      (assembly.renumber (numberAfter 1)).layout.statements.map Statement.line = [1, 3, 4]) ∧
    assemble .sicMachine .strict source = .error (.undefinedSymbol "B" 2) ∧
    assemble .sicMachine .strict (insertLine 1 line source) = .error (.undefinedSymbol "B" 3) ∧
    assemble .sicMachine {} " RESB x\n END" = .error (.malformedNumber .reservedBytes "x" 1) ∧
    assemble .sicMachine {} (insertLine 1 line " RESB x\n END") =
      .error (.malformedNumber .reservedBytes "x" 1) := by
  intro source line
  have remark : isRemark line = true := by decide +kernel
  have whole : '\n' ∉ line := by decide +kernel
  have undefined : assemble .sicMachine .strict source = .error (.undefinedSymbol "B" 2) := by
    decide +kernel
  have malformed : assemble .sicMachine {} " RESB x\n END" =
      .error (.malformedNumber .reservedBytes "x" 1) := by
    decide +kernel
  refine ⟨remark, whole, by decide +kernel, ?_, undefined, ?_, malformed, ?_⟩
  · refine exists_ok_and
      (fun assembly => assembly.layout.statements.map Statement.line = [1, 2, 3])
      (by decide +kernel) fun assembly assembled numbers => ⟨?_, ?_⟩
    · rw [(assemble_insertLine .sicMachine {} source 1 line remark whole).1, assembled]
      rfl
    · have renumbered : (assembly.renumber (numberAfter 1)).layout.statements.map Statement.line =
          (assembly.layout.statements.map Statement.line).map (numberAfter 1) := by
        simp [Assembly.renumber, Layout.renumber, Statement.renumber]
      rw [renumbered, of_decide_eq_true numbers]
      rfl
  · rw [(assemble_insertLine .sicMachine .strict source 1 line remark whole).1, undefined]
    rfl
  · rw [(assemble_insertLine .sicMachine {} " RESB x\n END" 1 line remark whole).1, malformed]
    rfl

end SicAssembler
