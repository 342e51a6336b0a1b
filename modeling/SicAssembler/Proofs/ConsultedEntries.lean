/-
This file says which entries of an opcode table an assembly run depends on. The
table is consulted three times: it must not be empty, it tells instructions
from mnemonics that mean nothing, and it gives an instruction its code. In each
of the last two the directives come first, so an entry under the name of a
directive, or under a name that begins with `BYTE`, is never looked at. Nor is
an entry for a mnemonic that does not occur before the program is closed. Two
tables that agree on all other entries cannot be told apart, neither by what is
assembled nor by the cause that stops the run.
-/

import SicAssembler.Proofs.Closing
import SicAssembler.Proofs.Symbols

namespace SicAssembler

/-! ### Mnemonics that no table can take over -/

namespace Operation

/-- The names of the directives. -/
def directiveNames : List String := ["START", "END", "BYTE", "WORD", "RESW", "RESB"]

/-- Whether a mnemonic is the name of a directive or begins with `BYTE`. -/
def Reserved (mnemonic : String) : Prop :=
  mnemonic ∈ directiveNames ∨ "BYTE".toList <+: mnemonic.toList

instance : DecidablePred Reserved := fun mnemonic =>
  inferInstanceAs (Decidable (mnemonic ∈ directiveNames ∨ "BYTE".toList <+: mnemonic.toList))

theorem directive?_ne_instruction (mnemonic : String) :
    directive? mnemonic ≠ some .instruction := by
  unfold directive?
  repeat' split
  all_goals exact nofun

theorem isSome_directive?_iff (mnemonic : String) :
    (directive? mnemonic).isSome = true ↔ mnemonic ∈ directiveNames := by
  unfold directive? directiveNames
  repeat' split
  all_goals simp_all

/-- A reserved mnemonic stands for one and the same directive under every table. -/
theorem ofMnemonic?_of_reserved {mnemonic : String} (reserved : Reserved mnemonic) :
    ∃ operation, operation ≠ .instruction ∧
      ∀ table, ofMnemonic? table mnemonic = some operation := by
  cases named : directive? mnemonic with
  | some operation =>
    refine ⟨operation, fun asks => ?_, fun table => by rw [ofMnemonic?, named]⟩
    rw [asks] at named
    exact directive?_ne_instruction mnemonic named
  | none =>
    have unnamed : mnemonic ∉ directiveNames := by
      rw [← isSome_directive?_iff, named]
      exact Bool.false_ne_true
    have begins := List.isPrefixOf_iff_prefix.mpr (reserved.resolve_left unnamed)
    refine ⟨.byte, nofun, fun table => ?_⟩
    rw [ofMnemonic?, named]
    exact if_pos begins

/-- Any other mnemonic stands for an instruction if the table contains it. -/
theorem ofMnemonic?_of_not_reserved {mnemonic : String} (unreserved : ¬ Reserved mnemonic)
    (table : OpcodeTable) :
    ofMnemonic? table mnemonic = if table.contains mnemonic then some .instruction else none := by
  obtain ⟨unnamed, begins⟩ := not_or.mp unreserved
  have missing : directive? mnemonic = none := by
    rw [← isSome_directive?_iff] at unnamed
    exact Option.not_isSome_iff_eq_none.mp unnamed
  rw [ofMnemonic?, missing]
  exact if_neg fun isTrue => begins (List.isPrefixOf_iff_prefix.mp isTrue)

end Operation

/-- Whether two tables give a mnemonic the same code, or neither gives it one, where it matters. -/
def OpcodeTable.AgreeOn (table other : OpcodeTable) (mnemonic : String) : Prop :=
  ¬ Operation.Reserved mnemonic → table.get? mnemonic = other.get? mnemonic

instance (table other : OpcodeTable) (mnemonic : String) :
    Decidable (table.AgreeOn other mnemonic) :=
  inferInstanceAs (Decidable (¬ Operation.Reserved mnemonic → _ = _))

section

variable {table other : OpcodeTable}

/-! ### The layout -/

theorem Operation.ofMnemonic?_congr {mnemonic : String} (agree : table.AgreeOn other mnemonic) :
    ofMnemonic? table mnemonic = ofMnemonic? other mnemonic := by
  by_cases reserved : Reserved mnemonic
  · obtain ⟨operation, -, stands⟩ := ofMnemonic?_of_reserved reserved
    rw [stands table, stands other]
  · rw [ofMnemonic?_of_not_reserved reserved, ofMnemonic?_of_not_reserved reserved,
      ← table.isSome_get?, ← other.isSome_get?, agree reserved]

theorem Cursor.place_congr {fields : Fields} (agree : table.AgreeOn other fields.mnemonic)
    (cursor : Cursor) (policy : Strictness) (line : Nat) :
    cursor.place table policy line fields = cursor.place other policy line fields := by
  unfold place Cursor.statement
  rw [Operation.ofMnemonic?_congr agree]

theorem walk_congr_table {lines : List (Nat × Fields)}
    (agree : ∀ entry ∈ lines, table.AgreeOn other entry.2.mnemonic) (policy : Strictness)
    (cursor : Cursor) : walk table policy cursor lines = walk other policy cursor lines := by
  induction lines generalizing cursor with
  | nil => rfl
  | cons entry rest inductionHypothesis =>
    obtain ⟨line, fields⟩ := entry
    obtain ⟨here, later⟩ := List.forall_mem_cons.mp agree
    rw [walk, walk, Cursor.place_congr here]
    refine congrArg (fun next => cursor.place other policy line fields >>= next) (funext ?_)
    rintro ⟨statement, moved⟩
    simp only [inductionHypothesis later moved]

/-! ### The object program -/

/-- A statement that was laid out emits the same under both tables. -/
theorem Statement.emission_congr {statement : Statement}
    (classified : Operation.ofMnemonic? table statement.mnemonic = some statement.operation)
    (agree : table.AgreeOn other statement.mnemonic) (symbols : SymbolTable)
    (policy : Strictness) :
    statement.emission table symbols policy = statement.emission other symbols policy := by
  by_cases asks : statement.operation = .instruction
  · have unreserved : ¬ Operation.Reserved statement.mnemonic := by
      intro reserved
      obtain ⟨operation, directive, stands⟩ := Operation.ofMnemonic?_of_reserved reserved
      rw [stands table, asks] at classified
      exact directive (Option.some.inj classified)
    unfold Statement.emission Statement.instruction
    rw [agree unreserved]
  · unfold Statement.emission
    split
    case h_7 instruction => exact absurd instruction asks
    all_goals rfl

theorem mapM_congr {Cause Item Value : Type} {step next : Item → Except Cause Value}
    {items : List Item} (same : ∀ item ∈ items, step item = next item) :
    items.mapM step = items.mapM next := by
  induction items with
  | nil => rfl
  | cons item rest inductionHypothesis =>
    obtain ⟨here, later⟩ := List.forall_mem_cons.mp same
    rw [List.mapM_cons, List.mapM_cons, here, inductionHypothesis later]

end

/-! ### Sources -/

/-- Whether two tables agree on the mnemonics of the given lines. -/
def OpcodeTable.AgreeOnLines (table other : OpcodeTable) (style : FieldStyle)
    (lines : List String) : Prop :=
  ∀ line ∈ lines, ∀ fields ∈ Fields.ofLine? style line, table.AgreeOn other fields.mnemonic

instance (table other : OpcodeTable) (style : FieldStyle) (lines : List String) :
    Decidable (table.AgreeOnLines other style lines) :=
  inferInstanceAs (Decidable (∀ line ∈ lines, ∀ fields ∈ Fields.ofLine? style line, _))

section

variable {table other : OpcodeTable} {options : Options} {lines : List String}

theorem OpcodeTable.AgreeOnLines.numberedFields
    (agree : table.AgreeOnLines other options.fieldStyle lines) :
    ∀ entry ∈ numberedFields options.fieldStyle lines, table.AgreeOn other entry.2.mnemonic := by
  intro entry member
  obtain ⟨⟨line, number⟩, inLines, found⟩ := List.mem_filterMap.mp member
  obtain ⟨fields, divided, rfl⟩ := Option.map_eq_some_iff.mp found
  exact agree line (List.fst_mem_of_mem_zipIdx inLines) fields divided

theorem Layout.ofLines_congr_table (loaded : table.isEmpty = false)
    (otherLoaded : other.isEmpty = false)
    (agree : table.AgreeOnLines other options.fieldStyle lines) :
    Layout.ofLines table options lines = Layout.ofLines other options lines := by
  unfold Layout.ofLines
  rw [if_neg (Bool.eq_false_iff.mp loaded), if_neg (Bool.eq_false_iff.mp otherLoaded),
    walk_congr_table agree.numberedFields]

theorem ObjectProgram.ofLayout_congr_table {layout : Layout} (loaded : table.isEmpty = false)
    (otherLoaded : other.isEmpty = false)
    (agree : table.AgreeOnLines other options.fieldStyle lines)
    (laidOut : Layout.ofLines table options lines = .ok layout) :
    ObjectProgram.ofLayout table options layout = ObjectProgram.ofLayout other options layout := by
  obtain ⟨found, walks, rfl⟩ := Layout.ofLines_eq_ok laidOut
  unfold ObjectProgram.ofLayout ObjectProgram.ofStatements
  rw [if_neg (Bool.eq_false_iff.mp loaded), if_neg (Bool.eq_false_iff.mp otherLoaded)]
  refine congrArg (· >>= _) (mapM_congr fun statement member => ?_)
  -- A statement is one of the lines, so the tables agree on its mnemonic.
  have inStatements : statement ∈ found.statements := (List.takeWhile_sublist _).subset member
  have placed : (statement.line, statement.toFields) ∈ numberedFields options.fieldStyle lines :=
    (walk_lines walks).subset (List.mem_map_of_mem inStatements)
  exact Statement.emission_congr (walk_classified walks statement inStatements)
    (agree.numberedFields _ placed) _ _

end

/-- Two tables that agree on the mnemonics through the first `END`, those of directives apart,
assemble a source alike, or stop for the same cause. -/
theorem assemble_table_independent (table other : OpcodeTable) (options : Options)
    (source : String) (loaded : table.isEmpty = false) (otherLoaded : other.isEmpty = false)
    (agree : table.AgreeOnLines other options.fieldStyle (throughEnd (linesOf source))) :
    assemble table options source = assemble other options source := by
  unfold assemble
  rw [Layout.ofLines_throughEnd, Layout.ofLines_throughEnd other]
  have layouts := Layout.ofLines_congr_table loaded otherLoaded agree
  rw [← layouts]
  cases laidOut : Layout.ofLines table options (throughEnd (linesOf source)) with
  | error cause => rfl
  | ok layout =>
    have records := ObjectProgram.ofLayout_congr_table loaded otherLoaded agree laidOut
    show (ObjectProgram.ofLayout table options layout >>= _) =
      ObjectProgram.ofLayout other options layout >>= _
    rw [records]

/-- A table that holds entries under the names of directives, lacks most instructions and gives
another code to the one that stands behind the end directive. -/
theorem assemble_table_independent_of_shadows :
    let source := "P START 10\n LDA A\nA WORD 5\n BYTEX C'E'\nEND\n J A\n"
    let other : OpcodeTable := Dictionary.ofListLast
      [("WORD", 0x99), ("LDA", 0x00), ("BYTEX", 0x11), ("END", 0x22), ("J", 0xFF)]
    OpcodeTable.sicMachine.isEmpty = false ∧ other.isEmpty = false ∧
    OpcodeTable.AgreeOnLines .sicMachine other .columns (throughEnd (linesOf source)) ∧
    OpcodeTable.sicMachine.get? "J" ≠ other.get? "J" ∧
    ∃ assembly, assemble .sicMachine {} source = .ok assembly ∧
      assemble other {} source = .ok assembly := by
  intro source other
  have loaded : OpcodeTable.sicMachine.isEmpty = false := by decide +kernel
  have otherLoaded : other.isEmpty = false := by decide +kernel
  have agree : OpcodeTable.AgreeOnLines .sicMachine other .columns
      (throughEnd (linesOf source)) := by
    decide +kernel
  refine ⟨loaded, otherLoaded, agree, by decide +kernel, ?_⟩
  refine exists_ok_and (fun _ => true) (by decide +kernel) fun assembly assembled _ => ?_
  rw [← assemble_table_independent .sicMachine other {} source loaded otherLoaded agree]
  exact assembled

end SicAssembler
