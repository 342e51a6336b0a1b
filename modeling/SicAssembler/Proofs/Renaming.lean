/-
This file proves that the names of labels have no bearing on the object program.
Let an injective map rename the labels of a source and the operands of its
instructions, and leave everything else as it is. Then both sources stop at the
same cause, or both are assembled into the same records and the same program,
and what else remembers a name has the new one in the place of the old.

A name is only ever compared with other names, when it is looked up or added,
and an injective map respects these comparisons. So every step of a run commutes
with renaming, and so does the run.
-/

import Mathlib.Data.List.Forall2
import Mathlib.Data.List.Nodup
import Mathlib.Logic.Embedding.Basic
import Mathlib.Logic.Equiv.Basic
import SicAssembler.Assembly
import SicAssembler.Proofs.SourceLines

namespace SicAssembler

/-! ### Renaming -/

/-- The fields under new names. The operand holds a name only if an instruction is asked for. -/
def Fields.rename (rename : String ↪ String) (asks : Bool) (fields : Fields) : Fields where
  label? := fields.label?.map rename
  mnemonic := fields.mnemonic
  operand? := if asks then fields.operand?.map rename else fields.operand?

/-- The fields of a line under new names. -/
def Fields.renameIn (table : OpcodeTable) (rename : String ↪ String) (fields : Fields) : Fields :=
  fields.rename rename (Operation.ofMnemonic? table fields.mnemonic = some .instruction)

/-- The statement under new names. -/
def Statement.rename (rename : String ↪ String) (statement : Statement) : Statement :=
  { statement with
    toFields := statement.toFields.rename rename (statement.operation = .instruction) }

/-- The dictionary under new names, in the same order. -/
def Dictionary.rename {Value : Type} (rename : String ↪ String) (dictionary : Dictionary Value) :
    Dictionary Value where
  entries := dictionary.entries.map (Prod.map rename id)
  distinct := by
    rw [List.map_map]
    have names : Prod.fst ∘ Prod.map rename (id : Value → Value) = rename ∘ Prod.fst := rfl
    rw [names, ← List.map_map]
    exact dictionary.distinct.map rename.injective

/-- The cursor under new names. -/
def Cursor.rename (rename : String ↪ String) (cursor : Cursor) : Cursor :=
  { cursor with symbols := cursor.symbols.rename rename }

/-- The walk under new names. -/
def Walk.rename (rename : String ↪ String) (found : Walk) : Walk :=
  { found with
    statements := found.statements.map (Statement.rename rename)
    cursor := found.cursor.rename rename }

/-- The layout under new names. -/
def Layout.rename (rename : String ↪ String) (layout : Layout) : Layout :=
  { layout with
    statements := layout.statements.map (Statement.rename rename)
    symbols := layout.symbols.rename rename }

/-- The assembly under new names. Its records are the same. -/
def Assembly.rename (rename : String ↪ String) (assembly : Assembly) : Assembly :=
  { assembly with layout := assembly.layout.rename rename }

/-- The cause under new names. Only two causes name a label or a symbol. -/
def AssemblyError.rename (rename : String ↪ String) : AssemblyError → AssemblyError
  | duplicateLabel label line => duplicateLabel (rename label) line
  | undefinedSymbol symbol line => undefinedSymbol (rename symbol) line
  | cause => cause

/-- The outcome of a run under new names, where `change` renames its result. -/
abbrev renameRun {First Second : Type} (rename : String ↪ String) (change : First → Second) :
    Except AssemblyError First → Except AssemblyError Second :=
  mapRun (AssemblyError.rename rename) change

variable (rename : String ↪ String)

/-! ### Symbols -/

namespace Dictionary

variable {Value : Type}

theorem contains_rename (dictionary : Dictionary Value) (name : String) :
    (dictionary.rename rename).contains (rename name) = dictionary.contains name := by
  unfold contains Dictionary.rename
  rw [List.any_map]
  refine congrArg dictionary.entries.any (funext fun entry => ?_)
  exact decide_eq_decide.mpr (rename.apply_eq_iff_eq entry.1 name)

theorem get?_rename (dictionary : Dictionary Value) (name : String) :
    (dictionary.rename rename).get? (rename name) = dictionary.get? name := by
  have same : (fun entry : String × Value => decide (entry.1 = rename name)) ∘
      Prod.map rename id = fun entry => decide (entry.1 = name) :=
    funext fun entry => decide_eq_decide.mpr (rename.apply_eq_iff_eq entry.1 name)
  unfold get? Dictionary.rename
  rw [List.find?_map, same, Option.map_map]
  rfl

theorem insertIfNew_rename (dictionary : Dictionary Value) (name : String) (value : Value) :
    (dictionary.rename rename).insertIfNew (rename name) value =
      (dictionary.insertIfNew name value).rename rename := by
  have known := dictionary.contains_rename rename name
  by_cases contained : dictionary.contains name = true
  · rw [insertIfNew_of_contains value contained,
      insertIfNew_of_contains value (known.trans contained)]
  · refine Dictionary.ext ?_
    rw [entries_insertIfNew_of_not_contains value (by rw [known]; exact contained)]
    show dictionary.entries.map _ ++ [(rename name, value)] =
      (dictionary.insertIfNew name value).entries.map _
    rw [entries_insertIfNew_of_not_contains value contained, List.map_append]
    rfl

end Dictionary

/-! ### Statements -/

namespace Statement

theorem operand?_rename_of_instruction {statement : Statement}
    (asks : statement.operation = .instruction) :
    (statement.rename rename).operand? = statement.operand?.map rename :=
  if_pos (decide_eq_true asks)

theorem operand?_rename_of_directive {statement : Statement}
    (other : statement.operation ≠ .instruction) :
    (statement.rename rename).operand? = statement.operand? :=
  if_neg (Bool.eq_false_iff.mp (decide_eq_false other))

theorem malformed_rename {statement : Statement} (other : statement.operation ≠ .instruction)
    (field : NumericField) :
    (statement.rename rename).malformed field = statement.malformed field := by
  unfold malformed
  rw [operand?_rename_of_directive rename other]
  rfl

theorem operandFor_rename {statement : Statement} (other : statement.operation ≠ .instruction)
    (field : NumericField) :
    (statement.rename rename).operandFor field =
      renameRun rename id (statement.operandFor field) := by
  unfold operandFor
  rw [operand?_rename_of_directive rename other, malformed_rename rename other]
  cases statement.operand? <;> rfl

/-- The number in the operand of a directive is the same, and so is the cause if there is none. -/
theorem number_rename {statement : Statement} (other : statement.operation ≠ .instruction)
    (radix : Radix) (field : NumericField) :
    (statement.rename rename).number radix field =
      renameRun rename id (statement.number radix field) := by
  unfold number
  refine mapRun_bind (operandFor_rename rename other field) fun operand => ?_
  rw [id_eq, malformed_rename rename other]
  cases radix.readBelow? wordValues operand.toList <;> rfl

theorem word_rename {statement : Statement} (other : statement.operation ≠ .instruction) :
    (statement.rename rename).word = renameRun rename id statement.word := by
  unfold word
  refine mapRun_bind (operandFor_rename rename other .wordValue) fun operand => ?_
  rw [id_eq, malformed_rename rename other]
  cases (Radix.decimal.readSigned? operand.toList).filter fitsWord <;> rfl

theorem constant_rename {statement : Statement} (other : statement.operation ≠ .instruction) :
    (statement.rename rename).constant = renameRun rename id statement.constant := by
  unfold constant
  simp only [operand?_rename_of_directive rename other]
  cases ByteConstant.read? (statement.operand?.getD absentText) <;> rfl

theorem size_rename (statement : Statement) :
    (statement.rename rename).size = renameRun rename id statement.size := by
  have kind : (statement.rename rename).operation = statement.operation := rfl
  unfold size
  rw [kind]
  cases operation : statement.operation with
  | start => rfl
  | finish => rfl
  | word => rfl
  | instruction => rfl
  | reserveWords =>
    rw [number_rename rename (by simp [operation])]
    cases statement.number .decimal .reservedWords <;> rfl
  | reserveBytes => exact number_rename rename (by simp [operation]) _ _
  | byte =>
    rw [constant_rename rename (by simp [operation])]
    cases statement.constant <;> rfl

end Statement

/-! ### The walk -/

namespace Cursor

theorem statement_rename (cursor : Cursor) (table : OpcodeTable) (line : Nat) (fields : Fields) :
    (cursor.rename rename).statement table line (fields.renameIn table rename) =
      renameRun rename (Statement.rename rename) (cursor.statement table line fields) := by
  have mnemonics : (fields.renameIn table rename).mnemonic = fields.mnemonic := rfl
  unfold statement
  rw [mnemonics]
  cases classified : Operation.ofMnemonic? table fields.mnemonic with
  | none => rfl
  | some operation =>
    simp [mapRun, Statement.rename, Fields.renameIn, Fields.rename, classified, Cursor.rename]

theorem defineLabel_rename (cursor : Cursor) (policy : Strictness) (statement : Statement) :
    (cursor.rename rename).defineLabel policy (statement.rename rename) =
      renameRun rename (Cursor.rename rename) (cursor.defineLabel policy statement) := by
  have labels : (statement.rename rename).label? = statement.label?.map rename := rfl
  unfold defineLabel
  rw [labels]
  cases statement.label? with
  | none => rfl
  | some label =>
    show (if (cursor.symbols.rename rename).contains (rename label) then _ else _) =
      renameRun _ _ (if cursor.symbols.contains label then _ else _)
    -- An injective map makes no label a duplicate that was none.
    rw [cursor.symbols.contains_rename]
    split
    · cases policy <;> rfl
    · show Except.ok _ = Except.ok _
      rw [Cursor.rename, Cursor.rename, ← cursor.symbols.insertIfNew_rename]

theorem moveBy_rename (cursor : Cursor) (size line : Nat) :
    (cursor.rename rename).moveBy size line =
      renameRun rename (Cursor.rename rename) (cursor.moveBy size line) := by
  unfold moveBy
  show (if addressCount < cursor.counter + size then _ else _) =
    renameRun _ _ (if addressCount < cursor.counter + size then _ else _)
  split <;> rfl

theorem moveTo_rename (cursor : Cursor) {statement : Statement}
    (begins : statement.operation = .start) :
    (cursor.rename rename).moveTo (statement.rename rename) =
      renameRun rename (Cursor.rename rename) (cursor.moveTo statement) := by
  unfold moveTo
  refine mapRun_bind (statement.number_rename rename ?_ _ _) fun start => ?_
  · rw [begins]
    exact Operation.noConfusion
  · show (if addressCount ≤ start then _ else _) =
      renameRun _ _ (if addressCount ≤ start then _ else _)
    split <;> rfl

/-- A statement that is renamed takes the effect that it took, under the new names. -/
theorem settle_rename (cursor : Cursor) (policy : Strictness) (statement : Statement) :
    (cursor.rename rename).settle policy (statement.rename rename) =
      renameRun rename (Prod.map (Statement.rename rename) (Cursor.rename rename))
        (cursor.settle policy statement) := by
  have kind : (statement.rename rename).operation = statement.operation := rfl
  have ordinary : ((cursor.rename rename).defineLabel policy (statement.rename rename) >>=
        fun labelled => (statement.rename rename).size >>= fun size =>
          labelled.moveBy size statement.line >>= fun moved =>
            Except.ok (statement.rename rename, moved)) =
      renameRun rename (Prod.map (Statement.rename rename) (Cursor.rename rename))
        (cursor.defineLabel policy statement >>= fun labelled => statement.size >>= fun size =>
          labelled.moveBy size statement.line >>= fun moved => Except.ok (statement, moved)) := by
    refine mapRun_bind (cursor.defineLabel_rename rename policy statement) fun labelled => ?_
    refine mapRun_bind (statement.size_rename rename) fun size => ?_
    exact mapRun_bind (labelled.moveBy_rename rename size statement.line) fun moved => rfl
  unfold settle
  rw [kind]
  cases operation : statement.operation with
  | start =>
    -- The name before a start directive is renamed as well, but nothing looks it up.
    refine mapRun_bind (cursor.moveTo_rename rename operation) fun moved => ?_
    simp only [Statement.rename, operation]
    rfl
  | finish =>
    have labels : (statement.rename rename).label? = statement.label?.map rename := rfl
    simp only [labels]
    cases statement.label? <;> rfl
  | byte => exact ordinary
  | word => exact ordinary
  | reserveWords => exact ordinary
  | reserveBytes => exact ordinary
  | instruction => exact ordinary

theorem place_rename (cursor : Cursor) (table : OpcodeTable) (policy : Strictness) (line : Nat)
    (fields : Fields) :
    (cursor.rename rename).place table policy line (fields.renameIn table rename) =
      renameRun rename (Prod.map (Statement.rename rename) (Cursor.rename rename))
        (cursor.place table policy line fields) := by
  unfold place
  refine mapRun_bind (cursor.statement_rename rename table line fields) fun statement => ?_
  exact cursor.settle_rename rename policy statement

end Cursor

/-- A walk over renamed lines is the walk under new names. -/
theorem walk_rename (table : OpcodeTable) (policy : Strictness) (cursor : Cursor)
    (lines : List (Nat × Fields)) :
    walk table policy (cursor.rename rename)
        (lines.map (Prod.map id (Fields.renameIn table rename))) =
      renameRun rename (Walk.rename rename) (walk table policy cursor lines) := by
  induction lines generalizing cursor with
  | nil => rfl
  | cons entry rest inductionHypothesis =>
    obtain ⟨line, fields⟩ := entry
    rw [List.map_cons, Prod.map_apply, id_eq, walk, walk]
    refine mapRun_bind (cursor.place_rename rename table policy line fields) ?_
    rintro ⟨statement, moved⟩
    show (if statement.operation = .finish then _ else _) =
      renameRun _ _ (if statement.operation = .finish then _ else _)
    split
    · rfl
    · exact mapRun_bind (inductionHypothesis moved) fun later => rfl

/-! ### The object program -/

namespace Statement

theorem targetAddress_rename {statement : Statement} (asks : statement.operation = .instruction)
    (symbols : SymbolTable) (policy : Strictness) :
    (statement.rename rename).targetAddress (symbols.rename rename) policy =
      renameRun rename id (statement.targetAddress symbols policy) := by
  unfold targetAddress
  rw [operand?_rename_of_instruction rename asks]
  cases statement.operand? with
  | none => rfl
  | some symbol =>
    simp only [Option.map_some, symbols.get?_rename]
    cases symbols.get? symbol with
    | none => cases policy <;> rfl
    | some address =>
      show (if address < targetCount then _ else _) =
        renameRun _ _ (if address < targetCount then _ else _)
      split <;> rfl

theorem instruction_rename {statement : Statement} (asks : statement.operation = .instruction)
    (table : OpcodeTable) (symbols : SymbolTable) (policy : Strictness) :
    (statement.rename rename).instruction table (symbols.rename rename) policy =
      renameRun rename id (statement.instruction table symbols policy) := by
  have mnemonics : (statement.rename rename).mnemonic = statement.mnemonic := rfl
  unfold Statement.instruction
  rw [mnemonics]
  cases table.get? statement.mnemonic with
  | none => rfl
  | some opcode =>
    exact mapRun_bind (targetAddress_rename rename asks symbols policy) fun address => rfl

/-- A statement that is renamed emits what it did. -/
theorem emission_rename (statement : Statement) (table : OpcodeTable) (symbols : SymbolTable)
    (policy : Strictness) :
    (statement.rename rename).emission table (symbols.rename rename) policy =
      renameRun rename id (statement.emission table symbols policy) := by
  have kind : (statement.rename rename).operation = statement.operation := rfl
  unfold emission
  rw [kind]
  cases operation : statement.operation with
  | start => rfl
  | finish => rfl
  | reserveWords => rfl
  | reserveBytes => rfl
  | word => exact mapRun_bind (word_rename rename (by simp [operation])) fun value => rfl
  | byte => exact mapRun_bind (constant_rename rename (by simp [operation])) fun value => rfl
  | instruction =>
    exact mapRun_bind (instruction_rename rename operation table symbols policy)
      fun content => rfl

end Statement

namespace ObjectProgram

theorem beforeFinish_rename (statements : List Statement) :
    beforeFinish (statements.map (Statement.rename rename)) =
      (beforeFinish statements).map (Statement.rename rename) := by
  unfold beforeFinish
  rw [List.takeWhile_map]
  rfl

/-- The object program of a layout under new names is the same. -/
theorem ofLayout_rename (table : OpcodeTable) (options : Options) (layout : Layout) :
    ofLayout table options (layout.rename rename) =
      renameRun rename id (ofLayout table options layout) := by
  unfold ofLayout ofStatements
  split
  · rfl
  · rw [Layout.rename, beforeFinish_rename]
    refine mapRun_bind (mapRun_mapM (fun statement => ?_) _) fun emissions => rfl
    exact statement.emission_rename rename table layout.symbols options.undefinedSymbols

end ObjectProgram

/-! ### Sources -/

/-- Assemble the given lines. -/
def assembleLines (table : OpcodeTable) (options : Options) (lines : List String) :
    Except AssemblyError Assembly := do
  let layout ← Layout.ofLines table options lines
  let records ← ObjectProgram.ofLayout table options layout
  return { layout := layout, records := records }

theorem assemble_eq_assembleLines (table : OpcodeTable) (options : Options) (source : String) :
    assemble table options source = assembleLines table options (linesOf source) := rfl

/-- Whether the second line is the first one under new names. -/
def RenamedLine (table : OpcodeTable) (style : FieldStyle) (line other : String) : Prop :=
  Fields.ofLine? style other = (Fields.ofLine? style line).map (Fields.renameIn table rename)

instance (table : OpcodeTable) (style : FieldStyle) (line other : String) :
    Decidable (RenamedLine rename table style line other) :=
  inferInstanceAs (Decidable (_ = _))

theorem numberedFrom_rename {table : OpcodeTable} {style : FieldStyle} {lines others : List String}
    (renamed : List.Forall₂ (RenamedLine rename table style) lines others) (first : Nat) :
    numberedFrom style first others =
      (numberedFrom style first lines).map (Prod.map id (Fields.renameIn table rename)) := by
  induction renamed generalizing first with
  | nil => rfl
  | @cons line other rest others renamedLine _ inductionHypothesis =>
    cases divided : Fields.ofLine? style line with
    | none =>
      have otherDivided : Fields.ofLine? style other = none := by
        rw [renamedLine, divided, Option.map_none]
      rw [numberedFrom_cons_of_none divided, numberedFrom_cons_of_none otherDivided]
      exact inductionHypothesis (first + 1)
    | some fields =>
      have otherDivided : Fields.ofLine? style other = some (fields.renameIn table rename) := by
        rw [renamedLine, divided, Option.map_some]
      rw [numberedFrom_cons_of_some divided, numberedFrom_cons_of_some otherDivided,
        List.map_cons, inductionHypothesis (first + 1)]
      rfl

theorem Layout.ofLines_rename {table : OpcodeTable} {options : Options} {lines others : List String}
    (renamed : List.Forall₂ (RenamedLine rename table options.fieldStyle) lines others) :
    Layout.ofLines table options others =
      renameRun rename (Layout.rename rename) (Layout.ofLines table options lines) := by
  unfold Layout.ofLines
  split
  · rfl
  · rw [numberedFields_eq, numberedFields_eq, numberedFrom_rename rename renamed 1]
    exact mapRun_bind (walk_rename rename table options.duplicateLabels {} _) fun found => rfl

/-- Lines whose labels and operands of instructions are renamed by an injective map are assembled
alike: the program and the records are the same, and so are the statements and the symbols under
the new names. If the one run stops, so does the other, for the same cause under the new names. -/
theorem assembleLines_rename (table : OpcodeTable) (options : Options) (lines others : List String)
    (renamed : List.Forall₂ (RenamedLine rename table options.fieldStyle) lines others) :
    assembleLines table options others =
      renameRun rename (Assembly.rename rename) (assembleLines table options lines) := by
  refine mapRun_bind (Layout.ofLines_rename rename renamed) fun layout => ?_
  exact mapRun_bind (ObjectProgram.ofLayout_rename rename table options layout) fun records =>
    rfl

/-- A label that is defined twice and looks like a mnemonic, a name before the start directive that
looks like an absent field, and a symbol that is not defined. The operands of directives stay. -/
theorem assembleLines_rename_swapped :
    let rename := ((Equiv.swap "X" "LDA").trans (Equiv.swap "P" "-")).toEmbedding
    let lines := ["P START 10", "X LDA X", "", "P LDA Y", "X WORD 5", " BYTE X'F1'", " END X"]
    let others := ["- START 10", "LDA LDA LDA", "", "- LDA Y", "LDA WORD 5", " BYTE X'F1'",
      " END X"]
    List.Forall₂ (RenamedLine rename .sicMachine .columns) lines others ∧
    ∃ assembly, assembleLines .sicMachine {} lines = .ok assembly ∧
      assembleLines .sicMachine {} others = .ok (assembly.rename rename) := by
  intro rename lines others
  have renamed : List.Forall₂ (RenamedLine rename .sicMachine .columns) lines others := by
    decide +kernel
  refine ⟨renamed, exists_ok_and (fun _ => true) (by decide +kernel) fun assembly assembled _ => ?_⟩
  rw [assembleLines_rename rename .sicMachine {} lines others renamed, assembled]
  rfl

end SicAssembler
