/-
This file proves that the report of a lenient run tells whether a strict run
would have gone through. The lenient policies tolerate two things, a label that
is defined again and a symbol that is not defined, and they warn of each. The
other entries of a report are told apart from these warnings by their level, by
the part that reports them or by the letter their text begins with.
-/

import SicAssembler.Proofs.Strictness

namespace SicAssembler

/-! ### Two kinds of entries -/

namespace LogEntry

/-- Whether an entry warns of a label that is defined again. -/
def RedefinesLabel (entry : LogEntry) : Prop :=
  ∃ label line, entry = ⟨.warn, .layout,
    "Label " ++ label ++ " redefined on line " ++ decimal line ++ ", keeping first"⟩

/-- Whether an entry warns of a symbol that is not defined. -/
def MissesSymbol (entry : LogEntry) : Prop :=
  ∃ symbol line, entry = ⟨.warn, .objectProgram,
    "Undefined symbol " ++ symbol ++ " on line " ++ decimal line⟩

theorem RedefinesLabel.shape {entry : LogEntry} (warns : entry.RedefinesLabel) :
    entry.level = .warn ∧ entry.target = .layout ∧ entry.text.toList.head? = some 'L' := by
  obtain ⟨label, line, rfl⟩ := warns
  refine ⟨rfl, rfl, ?_⟩
  simp [String.toList_append]

theorem MissesSymbol.shape {entry : LogEntry} (warns : entry.MissesSymbol) :
    entry.level = .warn ∧ entry.target = .objectProgram ∧
      entry.text.toList.head? = some 'U' := by
  obtain ⟨symbol, line, rfl⟩ := warns
  refine ⟨rfl, rfl, ?_⟩
  simp [String.toList_append]

theorem not_redefinesLabel_of_level {entry : LogEntry} (other : entry.level ≠ .warn) :
    ¬ entry.RedefinesLabel :=
  fun warns => other warns.shape.1

theorem not_missesSymbol_of_level {entry : LogEntry} (other : entry.level ≠ .warn) :
    ¬ entry.MissesSymbol :=
  fun warns => other warns.shape.1

end LogEntry

/-! ### Warnings of the walk -/

theorem duplicateWarning_quiet_iff {cursor : Cursor} {statement : Statement}
    (unlabelled : statement.operation = .finish → statement.label? = none) :
    (∀ entry ∈ duplicateWarning cursor .lenient statement, ¬ entry.RedefinesLabel) ↔
      statement.FreshIn cursor.symbols := by
  unfold duplicateWarning Statement.FreshIn
  split
  · next begins => simp [begins]
  · next finishes => simp [unlabelled finishes]
  · next label carried _ ordinary _ =>
    have warns : LogEntry.RedefinesLabel ⟨.warn, .layout,
        "Label " ++ label ++ " redefined on line " ++ decimal statement.line ++
          ", keeping first"⟩ := ⟨label, statement.line, rfl⟩
    have notStart : statement.operation ≠ .start := ordinary
    by_cases known : cursor.symbols.contains label = true
    · simp [known, warns, notStart, carried]
    · simp [known, carried]
  · next uncarried =>
    refine iff_of_true (List.forall_mem_nil _) fun _ label carried => ?_
    exact absurd rfl (uncarried label carried)

theorem lineEntries_quiet_iff {cursor moved : Cursor} {table : OpcodeTable} {line : Nat}
    {fields : Fields} {statement : Statement}
    (placed : cursor.place table .lenient line fields = .ok (statement, moved)) :
    (∀ entry ∈ lineEntries cursor table .lenient line fields, ¬ entry.RedefinesLabel) ↔
      statement.FreshIn cursor.symbols := by
  obtain ⟨effect, -⟩ := Cursor.place_cases placed
  obtain ⟨asked, found, settles⟩ := bind_eq_ok_iff.mp placed
  have settled := Cursor.settle_eq settles
  have unlabelled : asked.operation = .finish → asked.label? = none := by
    intro finishes
    rcases effect with ⟨closes, -⟩ | moves
    · rw [settled] at closes
      exact closes.unlabelled
    · rw [settled] at moves
      exact absurd finishes moves.continues
  have reported : ¬ (statementEntry .layout asked).RedefinesLabel :=
    LogEntry.not_redefinesLabel_of_level LogLevel.noConfusion
  unfold lineEntries
  rw [found]
  simp only [List.forall_mem_cons]
  rw [and_iff_right reported, duplicateWarning_quiet_iff unlabelled, settled]
  exact Iff.rfl

theorem walkEntries_cons {cursor moved : Cursor} {table : OpcodeTable} {policy : Strictness}
    {line : Nat} {fields : Fields} {statement : Statement}
    (placed : cursor.place table policy line fields = .ok (statement, moved))
    (rest : List (Nat × Fields)) :
    walkEntries table policy cursor ((line, fields) :: rest) =
      lineEntries cursor table policy line fields ++
        if statement.operation = .finish then [] else walkEntries table policy moved rest := by
  rw [walkEntries, placed]

/-- A lenient walk warns of no label exactly if none is defined twice. -/
theorem walkEntries_quiet_iff {table : OpcodeTable} {cursor : Cursor}
    {lines : List (Nat × Fields)} {found : Walk}
    (walks : walk table .lenient cursor lines = .ok found) :
    (∀ entry ∈ walkEntries table .lenient cursor lines, ¬ entry.RedefinesLabel) ↔
      Fresh cursor.symbols found.statements := by
  induction lines generalizing cursor found with
  | nil =>
    rw [walk] at walks
    cases walks
    refine iff_of_true ?_ ⟨List.forall_mem_nil _, .nil⟩
    intro entry member warns
    rw [List.mem_singleton.mp member] at warns
    simpa [String.toList_append] using warns.shape.2.2
  | cons entry rest inductionHypothesis =>
    obtain ⟨line, fields⟩ := entry
    obtain ⟨statement, moved, placed, ending⟩ := walk_cons_eq_ok_iff.mp walks
    rw [walkEntries_cons placed rest, List.forall_mem_append, lineEntries_quiet_iff placed]
    rcases ending with ⟨finishes, rfl⟩ | ⟨continues, later, walked, rfl⟩
    · rw [if_pos finishes, and_iff_left (List.forall_mem_nil _), fresh_singleton_iff]
    · obtain ⟨⟨closes, -⟩ | moves, -⟩ := Cursor.place_cases placed
      · exact absurd closes.finishes continues
      · rw [if_neg continues, inductionHypothesis walked, moves.fresh_cons_iff]

theorem target_of_mem_duplicateWarning {cursor : Cursor} {policy : Strictness}
    {statement : Statement} {entry : LogEntry}
    (member : entry ∈ duplicateWarning cursor policy statement) : entry.target = .layout := by
  unfold duplicateWarning at member
  split at member
  · cases member
  · cases member
  · split at member
    · rw [List.mem_singleton.mp member]
    · cases member
  · cases member

theorem target_of_mem_lineEntries {cursor : Cursor} {table : OpcodeTable} {policy : Strictness}
    {line : Nat} {fields : Fields} {entry : LogEntry}
    (member : entry ∈ lineEntries cursor table policy line fields) : entry.target = .layout := by
  unfold lineEntries at member
  split at member
  · cases member
  · rcases List.mem_cons.mp member with rfl | warning
    · rfl
    · exact target_of_mem_duplicateWarning warning

theorem target_of_mem_walkEntries {table : OpcodeTable} {policy : Strictness} {cursor : Cursor}
    {lines : List (Nat × Fields)} {entry : LogEntry}
    (member : entry ∈ walkEntries table policy cursor lines) : entry.target = .layout := by
  induction lines generalizing cursor with
  | nil => rw [List.mem_singleton.mp member]
  | cons first rest inductionHypothesis =>
    obtain ⟨line, fields⟩ := first
    rw [walkEntries] at member
    rcases List.mem_append.mp member with here | later
    · exact target_of_mem_lineEntries here
    · split at later
      · cases later
      · split at later
        · cases later
        · exact inductionHypothesis later

/-! ### Warnings of the emissions -/

theorem undefinedWarning_quiet_iff {statement : Statement} {table : OpcodeTable}
    {symbols : SymbolTable} {emission : Emission}
    (emitted : statement.emission table symbols .lenient = .ok emission) :
    (∀ entry ∈ undefinedWarning table symbols .lenient statement, ¬ entry.MissesSymbol) ↔
      statement.Resolved symbols := by
  unfold undefinedWarning Statement.Resolved
  split
  · next symbol asks present _ =>
    have warns : LogEntry.MissesSymbol ⟨.warn, .objectProgram,
        "Undefined symbol " ++ symbol ++ " on line " ++ decimal statement.line⟩ :=
      ⟨symbol, statement.line, rfl⟩
    have known : table.contains statement.mnemonic = true := by
      simp only [Statement.emission, asks] at emitted
      obtain ⟨content, read, -⟩ := bind_eq_ok_iff.mp emitted
      obtain ⟨opcode, -, found, -, -⟩ := Statement.instruction_eq_ok read
      rw [← Dictionary.isSome_get?, found, Option.isSome_some]
    by_cases defined : symbols.contains symbol = true
    · simp [defined, present]
    · simp [defined, present, known, warns, asks]
  · next unnamed =>
    refine iff_of_true (List.forall_mem_nil _) fun asks symbol present => ?_
    exact absurd rfl (unnamed symbol asks present)

/-- Lenient emissions come with no warning exactly if every operand is defined. -/
theorem emissionEntries_quiet_iff {statements : List Statement} {table : OpcodeTable}
    {symbols : SymbolTable} {emissions : List Emission}
    (emitted : (ObjectProgram.beforeFinish statements).mapM
      (fun statement => statement.emission table symbols .lenient) = .ok emissions) :
    (∀ entry ∈ emissionEntries table symbols .lenient statements, ¬ entry.MissesSymbol) ↔
      ∀ statement ∈ ObjectProgram.beforeFinish statements, statement.Resolved symbols := by
  induction statements generalizing emissions with
  | nil =>
    refine iff_of_true ?_ (List.forall_mem_nil _)
    intro entry member warns
    rw [List.mem_singleton.mp member] at warns
    simpa using warns.shape.2.2
  | cons statement rest inductionHypothesis =>
    have reported : ¬ (statementEntry .objectProgram statement).MissesSymbol :=
      LogEntry.not_missesSymbol_of_level LogLevel.noConfusion
    rw [emissionEntries, List.forall_mem_cons, and_iff_right reported]
    by_cases finishes : statement.operation = .finish
    · rw [if_pos finishes, ObjectProgram.beforeFinish_cons_of_finish finishes]
      exact iff_of_true (List.forall_mem_nil _) (List.forall_mem_nil _)
    · rw [ObjectProgram.beforeFinish_cons finishes] at emitted ⊢
      obtain ⟨emission, others, first, later, -⟩ := mapM_cons_eq_ok emitted
      rw [if_neg finishes, first, List.forall_mem_append, undefinedWarning_quiet_iff first,
        inductionHypothesis later, List.forall_mem_cons]

theorem target_of_mem_emissionEntries {statements : List Statement} {table : OpcodeTable}
    {symbols : SymbolTable} {policy : Strictness} {entry : LogEntry}
    (member : entry ∈ emissionEntries table symbols policy statements) :
    entry.target = .objectProgram := by
  induction statements with
  | nil => rw [List.mem_singleton.mp member]
  | cons statement rest inductionHypothesis =>
    rw [emissionEntries] at member
    rcases List.mem_cons.mp member with rfl | further
    · rfl
    · split at further
      · cases further
      · rcases List.mem_append.mp further with warning | later
        · unfold undefinedWarning at warning
          split at warning
          · split at warning
            · rw [List.mem_singleton.mp warning]
            · cases warning
          · cases warning
        · split at later
          · cases later
          · exact inductionHypothesis later

/-! ### The whole report -/

/-- The entries of a run that goes through. -/
theorem assemblyLog_eq {table : OpcodeTable} {options : Options} {source : String}
    {layout : Layout} {records : ObjectProgram}
    (laidOut : Layout.ofLines table options (linesOf source) = .ok layout)
    (built : ObjectProgram.ofLayout table options layout = .ok records) :
    assemblyLog table options source =
      ⟨.debug, .assembler, "Assembling with " ++ options.description⟩ ::
        (walkEntries table options.duplicateLabels {}
            (numberedFields options.fieldStyle (linesOf source)) ++
          layoutSummary layout ::
            (emissionEntries table layout.symbols options.undefinedSymbols layout.statements ++
              [objectSummary records])) := by
  rw [assemblyLog, if_neg (Layout.not_isEmpty_of_ofLines laidOut), laidOut]
  simp only [objectEntries, built, List.cons_append]

/-- The report of a lenient run that goes through has no warning of either kind exactly if no
label is defined twice and every operand is defined. -/
theorem assemblyLog_quiet_iff {table : OpcodeTable} {options : Options} {source : String}
    {assembly : Assembly} (labels : options.duplicateLabels = .lenient)
    (operands : options.undefinedSymbols = .lenient)
    (assembled : assemble table options source = .ok assembly) :
    (∀ entry ∈ assemblyLog table options source,
        ¬ entry.RedefinesLabel ∧ ¬ entry.MissesSymbol) ↔
      assembly.layout.LabelsDistinct ∧ assembly.layout.OperandsDefined := by
  obtain ⟨laidOut, built⟩ := assemble_eq_ok assembled
  obtain ⟨found, walks, layout⟩ := Layout.ofLines_eq_ok laidOut
  obtain ⟨emissions, emitted, -⟩ := ObjectProgram.ofStatements_eq_ok built
  rw [labels] at walks
  rw [operands] at emitted
  have distinctIff := walkEntries_quiet_iff walks
  have definedIff := emissionEntries_quiet_iff emitted
  have distinctLabels : assembly.layout.LabelsDistinct ↔ Fresh .empty found.statements := by
    rw [layout]
    exact Layout.fresh_empty_iff.symm
  rw [distinctLabels, Layout.operandsDefined_iff laidOut, ← definedIff,
    assemblyLog_eq laidOut built, labels, operands]
  refine Iff.trans ?_ (and_congr_left fun _ => distinctIff)
  have summaries (entry : LogEntry) (level : entry.level = .debug) :
      ¬ entry.RedefinesLabel ∧ ¬ entry.MissesSymbol := by
    have other : entry.level ≠ .warn := by rw [level]; exact LogLevel.noConfusion
    exact ⟨LogEntry.not_redefinesLabel_of_level other, LogEntry.not_missesSymbol_of_level other⟩
  simp only [List.forall_mem_cons, List.forall_mem_append]
  constructor
  · rintro ⟨-, walkQuiet, -, emissionsQuiet, -⟩
    exact ⟨fun entry member => (walkQuiet entry member).1,
      fun entry member => (emissionsQuiet entry member).2⟩
  · rintro ⟨walkQuiet, emissionsQuiet⟩
    refine ⟨summaries _ rfl, fun entry member => ⟨walkQuiet entry member, fun warns => ?_⟩,
      summaries _ rfl, fun entry member => ⟨fun warns => ?_, emissionsQuiet entry member⟩,
      summaries _ rfl, List.forall_mem_nil _⟩
    · cases (target_of_mem_walkEntries member).symm.trans warns.shape.2.1
    · cases (target_of_mem_emissionEntries member).symm.trans warns.shape.2.1

/-- Strict policies only refuse. A strict run gives a result exactly if the lenient run gives the
same one and in it no label is defined twice and every operand is defined, or what comes to the
same, the lenient run warns of neither. In particular it stops where the lenient run stops. -/
theorem strict_only_refuses (table : OpcodeTable) (options : Options) (source : String) :
    (∀ assembly, assemble table (options.withPolicy .strict) source = .ok assembly ↔
      assemble table (options.withPolicy .lenient) source = .ok assembly ∧
        assembly.layout.LabelsDistinct ∧ assembly.layout.OperandsDefined) ∧
    (∀ assembly, assemble table (options.withPolicy .strict) source = .ok assembly ↔
      assemble table (options.withPolicy .lenient) source = .ok assembly ∧
        ∀ entry ∈ assemblyLog table (options.withPolicy .lenient) source,
          ¬ entry.RedefinesLabel ∧ ¬ entry.MissesSymbol) ∧
    ((∃ cause, assemble table (options.withPolicy .lenient) source = .error cause) →
      ∃ cause, assemble table (options.withPolicy .strict) source = .error cause) := by
  refine ⟨fun assembly => assemble_strict_iff, fun assembly => ?_, ?_⟩
  · rw [assemble_strict_iff]
    exact and_congr_right fun assembled => (assemblyLog_quiet_iff rfl rfl assembled).symm
  · rintro ⟨cause, stopped⟩
    cases strict : assemble table (options.withPolicy .strict) source with
    | error other => exact ⟨other, rfl⟩
    | ok assembly =>
      obtain ⟨lenient, -⟩ := assemble_strict_iff.mp strict
      cases stopped.symm.trans lenient

end SicAssembler
