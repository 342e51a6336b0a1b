/-
This file says exactly when a program that could be laid out has no object
program. The layout has already looked each mnemonic up and read each constant,
so what is left to go wrong is a word that is no number of 24 bits, a symbol
that is not defined where that is not tolerated, and an operand whose address
does not fit into an instruction. These are the faults of a statement, and they
are stated without the functions that build the object program. The run stops
at the first faulty statement, with the cause of its fault, and never otherwise.
-/

import SicAssembler.Proofs.Emission
import SicAssembler.Proofs.LocationCounter
import SicAssembler.Proofs.Symbols

namespace SicAssembler

/-! ### Runs that stop -/

/-- A run of two steps stops if the first does, or the second does on its result. -/
theorem bind_eq_error_iff {Cause First Second : Type} {step : Except Cause First}
    {next : First → Except Cause Second} {cause : Cause} :
    (step >>= next) = .error cause ↔
      step = .error cause ∨ ∃ value, step = .ok value ∧ next value = .error cause := by
  cases step with
  | error other =>
    constructor
    · intro stopped
      exact Or.inl (by cases stopped; rfl)
    · rintro (stopped | ⟨value, run, -⟩)
      · cases stopped
        rfl
      · cases run
  | ok value =>
    constructor
    · exact fun stopped => Or.inr ⟨value, rfl, stopped⟩
    · rintro (stopped | ⟨other, run, stopped⟩)
      · cases stopped
      · cases run
        exact stopped

theorem map_eq_error_iff {Cause First Second : Type} {step : Except Cause First}
    {change : First → Second} {cause : Cause} :
    change <$> step = .error cause ↔ step = .error cause := by
  constructor
  · intro stopped
    cases step with
    | error other =>
      cases stopped
      rfl
    | ok value => cases stopped
  · rintro rfl
    rfl

/-- A step over the items of a list stops at the first item on which it stops. -/
theorem mapM_eq_error_iff {Cause Item Value : Type} {step : Item → Except Cause Value}
    {items : List Item} {cause : Cause} :
    items.mapM step = .error cause ↔
      ∃ before item after, items = before ++ item :: after ∧
        (∀ earlier ∈ before, ∃ value, step earlier = .ok value) ∧ step item = .error cause := by
  induction items with
  | nil =>
    constructor
    · exact fun stopped => nomatch stopped
    · rintro ⟨before, item, after, parts, -⟩
      cases before <;> cases parts
  | cons head rest inductionHypothesis =>
    rw [List.mapM_cons, bind_eq_error_iff]
    constructor
    · rintro (stopped | ⟨value, run, stopped⟩)
      · exact ⟨[], head, rest, rfl, List.forall_mem_nil _, stopped⟩
      · rcases bind_eq_error_iff.mp stopped with inRest | ⟨values, -, impossible⟩
        · obtain ⟨before, item, after, rfl, earlier, stops⟩ := inductionHypothesis.mp inRest
          refine ⟨head :: before, item, after, rfl, ?_, stops⟩
          exact List.forall_mem_cons.mpr ⟨⟨value, run⟩, earlier⟩
        · cases impossible
    · rintro ⟨before, item, after, parts, earlier, stops⟩
      cases before with
      | nil =>
        cases parts
        exact Or.inl stops
      | cons first before =>
        cases parts
        obtain ⟨⟨value, run⟩, later⟩ := List.forall_mem_cons.mp earlier
        have inRest := inductionHypothesis.mpr ⟨before, item, after, rfl, later, stops⟩
        exact Or.inr ⟨value, run, bind_eq_error_iff.mpr (Or.inl inRest)⟩

/-! ### Mnemonics -/

/-- A mnemonic stands for an instruction only if the opcode table contains it. -/
theorem Operation.contains_of_ofMnemonic? {table : OpcodeTable} {mnemonic : String}
    (classified : ofMnemonic? table mnemonic = some .instruction) :
    table.contains mnemonic = true := by
  unfold ofMnemonic? at classified
  split at classified
  · next operation found =>
    cases classified
    unfold directive? at found
    repeat' split at found
    all_goals cases found
  · repeat' split at classified
    · cases classified
    · next known => exact known
    · cases classified

namespace Statement

/-! ### Faults -/

/-- Why a statement that was laid out cannot become part of the object program, with the cause
that is then reported. -/
inductive Fault (statement : Statement) (symbols : SymbolTable) (policy : Strictness) :
    AssemblyError → Prop where
  /-- A word without an operand. -/
  | absentWord (places : statement.operation = .word) (absent : statement.operand? = none) :
      Fault statement symbols policy (.malformedNumber .wordValue "-" statement.line)
  /-- A word whose operand is no signed decimal number of 64 bits. -/
  | unreadableWord (operand : String) (places : statement.operation = .word)
      (present : statement.operand? = some operand)
      (unreadable : ¬ ∃ value, Radix.decimal.readSigned? operand.toList = some value ∧
        -0x8000000000000000 ≤ value ∧ value ≤ 0x7FFFFFFFFFFFFFFF) :
      Fault statement symbols policy (.malformedNumber .wordValue operand statement.line)
  /-- A word whose operand is a number that does not fit. -/
  | wordTooLarge (operand : String) (value : Int) (places : statement.operation = .word)
      (present : statement.operand? = some operand)
      (read : Radix.decimal.readSigned? operand.toList = some value)
      (tooLarge : value < -0x800000 ∨ 0xFFFFFF < value) :
      Fault statement symbols policy (.malformedNumber .wordValue operand statement.line)
  /-- An instruction whose operand is not defined, where that is not tolerated. -/
  | undefinedSymbol (symbol : String) (asks : statement.operation = .instruction)
      (present : statement.operand? = some symbol) (undefined : symbols.get? symbol = none)
      (refused : policy = .strict) :
      Fault statement symbols policy (.undefinedSymbol symbol statement.line)
  /-- An instruction whose operand lies too far up for the address field. -/
  | targetTooFar (symbol : String) (address : Nat) (asks : statement.operation = .instruction)
      (present : statement.operand? = some symbol)
      (defined : symbols.get? symbol = some address) (tooFar : 0xFFFF < address) :
      Fault statement symbols policy (.addressOutOfRange address statement.line)

/-- Whether a statement has a fault. -/
def Faulty (statement : Statement) (symbols : SymbolTable) (policy : Strictness) : Prop :=
  ∃ cause, statement.Fault symbols policy cause

/-- The cause of a fault names the line of the statement. -/
theorem Fault.line?_eq {statement : Statement} {symbols : SymbolTable} {policy : Strictness}
    {cause : AssemblyError} (fault : statement.Fault symbols policy cause) :
    cause.line? = some statement.line := by
  cases fault <;> rfl

/-! ### Statements without an emission -/

theorem fitsWord_eq_false_iff {value : Int} :
    fitsWord value = false ↔ value < -0x800000 ∨ 0xFFFFFF < value := by
  rw [fitsWord, Bool.and_eq_false_iff, decide_eq_false_iff_not, decide_eq_false_iff_not]
  omega

/-- A word that is not read is reported as malformed, whatever is wrong with it. -/
theorem cause_of_word {statement : Statement} {cause : AssemblyError}
    (stopped : statement.word = .error cause) : cause = statement.malformed .wordValue := by
  rcases bind_eq_error_iff.mp stopped with absent | ⟨operand, -, unread⟩
  · unfold operandFor at absent
    split at absent
    · cases absent
    · exact (Except.error.inj absent).symm
  · split at unread
    · cases unread
    · exact (Except.error.inj unread).symm

theorem word_eq_error {statement : Statement} (unread : ∀ value, statement.word ≠ .ok value) :
    statement.word = .error (statement.malformed .wordValue) := by
  cases result : statement.word with
  | ok value => exact absurd result (unread value)
  | error cause => rw [cause_of_word result]

/-- A word that cannot be read is at fault. -/
theorem fault_of_word {statement : Statement} {symbols : SymbolTable} {policy : Strictness}
    {cause : AssemblyError} (places : statement.operation = .word)
    (stopped : statement.word = .error cause) : statement.Fault symbols policy cause := by
  have named := cause_of_word stopped
  unfold malformed at named
  cases present : statement.operand? with
  | none =>
    rw [named, present]
    exact .absentWord places present
  | some operand =>
    rw [named, present]
    cases read : Radix.decimal.readSigned? operand.toList with
    | none => exact .unreadableWord operand places present (by simp [read])
    | some value =>
      refine .wordTooLarge operand value places present read (fitsWord_eq_false_iff.mp ?_)
      -- If the number did fit, the word would have been read.
      cases fits : fitsWord value with
      | false => rfl
      | true =>
        have run := word_eq_ok_iff.mpr ⟨operand, present, value, read, fits, rfl⟩
        cases run.symm.trans stopped

/-- An operand whose address cannot be used is at fault. -/
theorem fault_of_targetAddress {statement : Statement} {symbols : SymbolTable}
    {policy : Strictness} {cause : AssemblyError} (asks : statement.operation = .instruction)
    (stopped : statement.targetAddress symbols policy = .error cause) :
    statement.Fault symbols policy cause := by
  unfold targetAddress at stopped
  cases present : statement.operand? with
  | none =>
    rw [present] at stopped
    cases stopped
  | some symbol =>
    simp only [present] at stopped
    cases definition : symbols.get? symbol with
    | none =>
      rw [definition] at stopped
      cases policy with
      | lenient => cases stopped
      | strict =>
        cases stopped
        exact .undefinedSymbol symbol asks present definition rfl
    | some address =>
      simp only [definition] at stopped
      by_cases near : address < targetCount
      · rw [if_pos near] at stopped
        cases stopped
      · rw [if_neg near] at stopped
        cases stopped
        exact .targetTooFar symbol address asks present definition (Nat.le_of_not_lt near)

/-- What the layout has found out about a statement: its mnemonic stands for its operation, and
its operand gives it a size. -/
structure Checked (statement : Statement) (table : OpcodeTable) : Prop where
  classified : Operation.ofMnemonic? table statement.mnemonic = some statement.operation
  measured : statement.size = .ok statement.extent

/-- The opcode table knows the mnemonic of an instruction. -/
theorem Checked.opcode {statement : Statement} {table : OpcodeTable}
    (checked : statement.Checked table) (asks : statement.operation = .instruction) :
    ∃ opcode, table.get? statement.mnemonic = some opcode := by
  have known := Operation.contains_of_ofMnemonic? (asks ▸ checked.classified)
  rw [← Dictionary.isSome_get?] at known
  exact Option.isSome_iff_exists.mp known

/-- Of the statements that were laid out, those without an emission are at fault. -/
theorem fault_of_emission {statement : Statement} {table : OpcodeTable} {symbols : SymbolTable}
    {policy : Strictness} {cause : AssemblyError} (checked : statement.Checked table)
    (stopped : statement.emission table symbols policy = .error cause) :
    statement.Fault symbols policy cause := by
  have measured := checked.measured
  unfold Statement.emission at stopped
  unfold Statement.size at measured
  cases operation : statement.operation <;> simp only [operation] at stopped measured
  case start | finish | reserveWords | reserveBytes => cases stopped
  case word =>
    rcases bind_eq_error_iff.mp stopped with unread | ⟨value, -, impossible⟩
    · exact fault_of_word operation unread
    · cases impossible
  case byte =>
    -- The constant was read when it was measured.
    obtain ⟨constant, read, -⟩ := map_eq_ok_iff.mp measured
    rw [read] at stopped
    cases stopped
  case instruction =>
    obtain ⟨opcode, known⟩ := checked.opcode operation
    rcases bind_eq_error_iff.mp stopped with refused | ⟨content, -, impossible⟩
    · simp only [Statement.instruction, known] at refused
      rcases bind_eq_error_iff.mp refused with unnamed | ⟨address, -, impossible⟩
      · exact fault_of_targetAddress operation unnamed
      · cases impossible
    · cases impossible

/-- A word at fault is reported as malformed. -/
theorem emission_eq_error_of_word {statement : Statement} {table : OpcodeTable}
    {symbols : SymbolTable} {policy : Strictness} (places : statement.operation = .word)
    (unread : ∀ value, statement.word ≠ .ok value) :
    statement.emission table symbols policy = .error (statement.malformed .wordValue) := by
  simp only [Statement.emission, places, word_eq_error unread]
  rfl

/-- A statement at fault has no emission, and the cause of the fault is reported. -/
theorem Fault.emission_eq_error {statement : Statement} {table : OpcodeTable}
    {symbols : SymbolTable} {policy : Strictness} {cause : AssemblyError}
    (fault : statement.Fault symbols policy cause) (checked : statement.Checked table) :
    statement.emission table symbols policy = .error cause := by
  have reported (operand : String) (present : statement.operand? = some operand) :
      statement.malformed .wordValue = .malformedNumber .wordValue operand statement.line := by
    rw [malformed, present, Option.getD_some]
  cases fault with
  | absentWord places absent =>
    refine (emission_eq_error_of_word places fun value run => ?_).trans ?_
    · obtain ⟨operand, present, -⟩ := word_eq_ok_iff.mp run
      exact nomatch absent.symm.trans present
    · rw [malformed, absent]
      rfl
  | unreadableWord operand places present unreadable =>
    rw [← reported operand present]
    refine emission_eq_error_of_word places fun word run => ?_
    obtain ⟨other, alsoPresent, value, read, fits, -⟩ := word_eq_ok_iff.mp run
    obtain rfl : operand = other := Option.some.inj (present.symm.trans alsoPresent)
    rw [fitsWord, Bool.and_eq_true, decide_eq_true_eq, decide_eq_true_eq] at fits
    exact unreadable ⟨value, read, by omega, by omega⟩
  | wordTooLarge operand value places present read tooLarge =>
    rw [← reported operand present]
    refine emission_eq_error_of_word places fun word run => ?_
    obtain ⟨other, alsoPresent, number, alsoRead, fits, -⟩ := word_eq_ok_iff.mp run
    obtain rfl : operand = other := Option.some.inj (present.symm.trans alsoPresent)
    obtain rfl : value = number := Option.some.inj (read.symm.trans alsoRead)
    rw [fitsWord_eq_false_iff.mpr tooLarge] at fits
    cases fits
  | undefinedSymbol symbol asks present undefined refused =>
    obtain ⟨opcode, known⟩ := checked.opcode asks
    simp only [Statement.emission, asks, Statement.instruction, known, targetAddress, present,
      undefined, refused]
    rfl
  | targetTooFar symbol address asks present defined tooFar =>
    obtain ⟨opcode, known⟩ := checked.opcode asks
    have far : ¬ address < targetCount := Nat.not_lt_of_le tooFar
    simp only [Statement.emission, asks, Statement.instruction, known, targetAddress, present,
      defined, if_neg far]
    rfl

end Statement

/-! ### Whole programs -/

/-- The layout checks every statement that it places. -/
theorem walk_checked {table : OpcodeTable} {policy : Strictness} {cursor : Cursor}
    {lines : List (Nat × Fields)} {found : Walk}
    (walks : walk table policy cursor lines = .ok found) :
    ∀ statement ∈ found.statements, statement.Checked table := fun statement member =>
  ⟨walk_classified walks statement member, (walk_traces walks).measured statement member⟩

/-- The end directive has an emission, so leaving it out does not change where a run stops. -/
theorem Traces.mapM_emission_eq_error_iff {cursor last : Cursor} {statements : List Statement}
    {terminated : Bool} {table : OpcodeTable} {symbols : SymbolTable} {policy : Strictness}
    {cause : AssemblyError} (traces : Traces cursor statements last terminated) :
    (ObjectProgram.beforeFinish statements).mapM
        (fun statement => statement.emission table symbols policy) = .error cause ↔
      statements.mapM (fun statement : Statement => statement.emission table symbols policy) =
        .error cause := by
  obtain ⟨closing, parts, finishes⟩ := traces.beforeFinish_append
  have emitted : ∀ other, closing.mapM (fun statement : Statement =>
      statement.emission table symbols policy) ≠ .error other := by
    intro other stopped
    obtain ⟨before, statement, after, rfl, -, stops⟩ := mapM_eq_error_iff.mp stopped
    simp [Statement.emission, finishes statement (by simp)] at stops
  nth_rewrite 2 [parts]
  rw [List.mapM_append, bind_eq_error_iff]
  constructor
  · exact Or.inl
  · rintro (stopped | ⟨values, -, later⟩)
    · exact stopped
    · rcases bind_eq_error_iff.mp later with stopped | ⟨others, -, impossible⟩
      · exact absurd stopped (emitted cause)
      · cases impossible

/-- A run over checked statements stops at the first that is at fault. -/
theorem mapM_emission_eq_error_iff {statements : List Statement} {table : OpcodeTable}
    {symbols : SymbolTable} {policy : Strictness} {cause : AssemblyError}
    (checked : ∀ statement ∈ statements, statement.Checked table) :
    statements.mapM (fun statement : Statement => statement.emission table symbols policy) =
        .error cause ↔
      ∃ before statement after, statements = before ++ statement :: after ∧
        (∀ earlier ∈ before, ¬ earlier.Faulty symbols policy) ∧
        statement.Fault symbols policy cause := by
  rw [mapM_eq_error_iff]
  refine exists_congr fun before => exists_congr fun statement => exists_congr fun after =>
    and_congr_right fun parts => and_congr (forall₂_congr fun earlier inBefore => ?_) ?_
  · have known : earlier.Checked table := checked earlier (by simp [parts, inBefore])
    constructor
    · rintro ⟨emission, emitted⟩ ⟨cause, fault⟩
      exact nomatch emitted.symm.trans (fault.emission_eq_error known)
    · intro faultless
      cases result : earlier.emission table symbols policy with
      | ok emission => exact ⟨emission, rfl⟩
      | error cause => exact absurd ⟨cause, Statement.fault_of_emission known result⟩ faultless
  · have known : statement.Checked table := checked statement (by simp [parts])
    exact ⟨Statement.fault_of_emission known, fun fault => fault.emission_eq_error known⟩

/-- The object program of a layout stops at the first statement that is at fault. -/
theorem ObjectProgram.ofLayout_eq_error_iff {table : OpcodeTable} {options : Options}
    {lines : List String} {layout : Layout} {cause : AssemblyError}
    (laidOut : Layout.ofLines table options lines = .ok layout) :
    ofLayout table options layout = .error cause ↔
      ∃ before statement after, layout.statements = before ++ statement :: after ∧
        (∀ earlier ∈ before, ¬ earlier.Faulty layout.symbols options.undefinedSymbols) ∧
        statement.Fault layout.symbols options.undefinedSymbols cause := by
  have nonempty := Layout.not_isEmpty_of_ofLines laidOut
  obtain ⟨found, walks, rfl⟩ := Layout.ofLines_eq_ok laidOut
  refine Iff.trans ?_ ((walk_traces walks).mapM_emission_eq_error_iff.trans
    (mapM_emission_eq_error_iff (walk_checked walks)))
  rw [ofLayout, ofStatements, if_neg nonempty, bind_eq_error_iff]
  refine ⟨fun stopped => ?_, Or.inl⟩
  rcases stopped with stopped | ⟨emissions, -, impossible⟩
  · exact stopped
  · cases impossible

/-- A statement at fault is the first one, or comes behind the first one. -/
theorem exists_first_fault {statements : List Statement} {symbols : SymbolTable}
    {policy : Strictness} (faulty : ∃ statement ∈ statements, statement.Faulty symbols policy) :
    ∃ cause before statement after, statements = before ++ statement :: after ∧
      (∀ earlier ∈ before, ¬ earlier.Faulty symbols policy) ∧
      statement.Fault symbols policy cause := by
  induction statements with
  | nil => simp at faulty
  | cons head rest inductionHypothesis =>
    by_cases first : head.Faulty symbols policy
    · obtain ⟨cause, fault⟩ := first
      exact ⟨cause, [], head, rest, rfl, List.forall_mem_nil _, fault⟩
    · obtain ⟨cause, before, statement, after, rfl, earlier, fault⟩ :=
        inductionHypothesis (by simpa [first] using faulty)
      exact ⟨cause, head :: before, statement, after, rfl,
        List.forall_mem_cons.mpr ⟨first, earlier⟩, fault⟩

/-- The law of where the object program of a layout stops. -/
structure Layout.FaultLaw (layout : Layout) (table : OpcodeTable) (options : Options) : Prop where
  /-- There is no object program exactly if some statement is at fault. -/
  stops_iff : (∃ cause, ObjectProgram.ofLayout table options layout = .error cause) ↔
    ∃ statement ∈ layout.statements,
      statement.Faulty layout.symbols options.undefinedSymbols
  /-- The cause is that of the first statement at fault, and it names the line of that
  statement. -/
  first_fault : ∀ cause, ObjectProgram.ofLayout table options layout = .error cause →
    ∃ before statement after, layout.statements = before ++ statement :: after ∧
      (∀ earlier ∈ before, ¬ earlier.Faulty layout.symbols options.undefinedSymbols) ∧
      statement.Fault layout.symbols options.undefinedSymbols cause ∧
      cause.line? = some statement.line
  /-- What the layout has checked is not reported again. -/
  never_reported : ∀ cause, ObjectProgram.ofLayout table options layout = .error cause →
    cause ≠ .emptyOpcodeTable ∧ (∀ mnemonic line, cause ≠ .invalidMnemonic mnemonic line) ∧
      (∀ operand line, cause ≠ .malformedConstant operand line) ∧
      ∀ label line, cause ≠ .duplicateLabel label line

/-- Every layout obeys the law: its object program stops at the first statement at fault, and
only there. -/
theorem Layout.ofLines_faultLaw (table : OpcodeTable) (options : Options) (lines : List String)
    (layout : Layout) (laidOut : Layout.ofLines table options lines = .ok layout) :
    layout.FaultLaw table options := by
  constructor
  case stops_iff =>
    constructor
    · rintro ⟨cause, stopped⟩
      obtain ⟨before, statement, after, parts, -, fault⟩ :=
        (ObjectProgram.ofLayout_eq_error_iff laidOut).mp stopped
      exact ⟨statement, by simp [parts], cause, fault⟩
    · intro faulty
      obtain ⟨cause, first⟩ := exists_first_fault faulty
      exact ⟨cause, (ObjectProgram.ofLayout_eq_error_iff laidOut).mpr first⟩
  case first_fault =>
    intro cause stopped
    obtain ⟨before, statement, after, parts, earlier, fault⟩ :=
      (ObjectProgram.ofLayout_eq_error_iff laidOut).mp stopped
    exact ⟨before, statement, after, parts, earlier, fault, fault.line?_eq⟩
  case never_reported =>
    intro cause stopped
    obtain ⟨before, statement, after, -, -, fault⟩ :=
      (ObjectProgram.ofLayout_eq_error_iff laidOut).mp stopped
    cases fault <;> simp

/-- The law for a strict program whose second statement names a symbol that is not defined, before
a word that does not fit. -/
theorem Layout.faultLaw_of_undefined_symbol :
    ∃ layout, Layout.ofLines .sicMachine .strict
        ["A WORD 5", " LDA B", " WORD 16777216", " BYTE X'F1'"] = .ok layout ∧
      ObjectProgram.ofLayout .sicMachine .strict layout = .error (.undefinedSymbol "B" 2) ∧
      layout.FaultLaw .sicMachine .strict := by
  refine exists_ok_and
    (fun layout => ObjectProgram.ofLayout .sicMachine .strict layout ==
      .error (.undefinedSymbol "B" 2))
    (by decide +kernel) fun layout laidOut stopped => ?_
  exact ⟨beq_iff_eq.mp stopped, Layout.ofLines_faultLaw .sicMachine .strict _ layout laidOut⟩

end SicAssembler
