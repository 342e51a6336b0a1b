/-
This file proves that a program can be relocated by its first start directive.
Two sources that differ only in the address named there are assembled alike:
every address of the one is that of the other, changed by the difference of the
two start addresses, and so is the address in an instruction whose operand is a
defined symbol. Nothing else changes. If only one of the sources is assembled,
the other one comes to an address that is out of range.

The records of the two programs correspond one to one, but a record does not say
which statements its fragments come from. So the instructions are followed
separately: those of the records are, in order, those of the statements, because
packing keeps the order of fragments and only ever cuts constants.
-/

import SicAssembler.Proofs.DisplacedRecords
import SicAssembler.Proofs.Tiling

namespace SicAssembler

/-! ### Instructions -/

/-- The opcode and the address of a fragment that is an instruction. -/
def Fragment.instruction? : Fragment → Option (UInt8 × UInt16)
  | .instruction opcode address => some (opcode, address)
  | _ => none

/-- The instructions among fragments, in order. -/
def instructionsOf (fragments : List Fragment) : List (UInt8 × UInt16) :=
  fragments.filterMap Fragment.instruction?

/-- The instructions of an object program, in order. -/
def ObjectProgram.instructions (records : ObjectProgram) : List (UInt8 × UInt16) :=
  instructionsOf ((records.filterMap ObjectRecord.textRecord?).flatMap TextRecord.fragments)

/-- Only constants are cut into pieces. -/
theorem CutInto.instructionsOf_eq {content : Fragment} {pieces : List Fragment}
    (cut : CutInto content pieces) : instructionsOf pieces = instructionsOf [content] := by
  induction cut with
  | whole content fits => rfl
  | piece first rest pieces full more later inductionHypothesis => exact inductionHypothesis

theorem instructionsOf_groups {contents : List Fragment} {groups : List (List Fragment)}
    (cut : List.Forall₂ CutInto contents groups) :
    instructionsOf groups.flatten = instructionsOf contents := by
  induction cut with
  | nil => rfl
  | @cons content pieces contents groups first rest inductionHypothesis =>
    unfold instructionsOf at inductionHypothesis ⊢
    rw [List.flatten_cons, List.filterMap_append, inductionHypothesis]
    have same : pieces.filterMap Fragment.instruction? =
        [content].filterMap Fragment.instruction? := first.instructionsOf_eq
    rw [same, ← List.filterMap_append, List.singleton_append]

/-- Under both ways of addressing, the instructions of the records are those of the emissions. -/
theorem instructionsOf_textRecords (addressing : RecordAddressing) (start : Nat)
    (emissions : List Emission) :
    instructionsOf ((ObjectProgram.textRecords addressing start emissions).flatMap
        TextRecord.fragments) =
      instructionsOf (emissions.filterMap Emission.content?) := by
  cases addressing with
  | tracked =>
    obtain ⟨groups, same, cut⟩ := exists_groups emissions
    show instructionsOf ((packTracked emissions).flatMap TextRecord.fragments) = _
    rw [flatMap_fragments_packTracked, same, instructionsOf_groups cut]
  | fixedIncrement =>
    show instructionsOf ((packFixed start emissions).flatMap TextRecord.fragments) = _
    rw [flatMap_fragments_packFixed]

namespace Statement

/-- The instructions of a statement before and after its symbols are displaced. -/
structure Recodes (statement : Statement) (table : OpcodeTable) (offset : Int)
    (symbols : SymbolTable) (instructions : (UInt8 × UInt16) × (UInt8 × UInt16)) : Prop where
  opcode : table.get? statement.mnemonic = some instructions.1.1
  sameOpcode : instructions.2.1 = instructions.1.1
  target : statement.Retargets offset symbols instructions.1.2 instructions.2.2

/-- Whether a statement asks for an instruction. -/
def isInstruction (statement : Statement) : Bool := statement.operation = .instruction

theorem emission_of_isInstruction {statement : Statement} {table : OpcodeTable}
    {symbols : SymbolTable} {policy : Strictness} {emission : Emission}
    (asks : statement.operation = .instruction)
    (emitted : statement.emission table symbols policy = .ok emission) :
    ∃ opcode address, table.get? statement.mnemonic = some opcode ∧
      statement.targetAddress symbols policy = .ok address ∧
      emission = .fragment statement.address (.instruction opcode address) := by
  simp only [Statement.emission, asks] at emitted
  obtain ⟨content, read, result⟩ := bind_eq_ok_iff.mp emitted
  obtain ⟨opcode, address, coded, named, rfl⟩ := instruction_eq_ok read
  exact ⟨opcode, address, coded, named, (Except.ok.inj result).symm⟩

/-- A statement that asks for no instruction emits none. -/
theorem instructionsOf_emission {statement : Statement} {table : OpcodeTable}
    {symbols : SymbolTable} {policy : Strictness} {emission : Emission}
    (other : statement.operation ≠ .instruction)
    (emitted : statement.emission table symbols policy = .ok emission) :
    instructionsOf emission.content?.toList = [] := by
  unfold Statement.emission at emitted
  cases operation : statement.operation <;> simp only [operation] at emitted
  case start | finish | reserveWords | reserveBytes =>
    cases emitted
    rfl
  case word =>
    obtain ⟨value, -, result⟩ := bind_eq_ok_iff.mp emitted
    cases result
    rfl
  case byte =>
    obtain ⟨constant, -, result⟩ := bind_eq_ok_iff.mp emitted
    cases result
    rfl
  case instruction => exact absurd operation other

end Statement

theorem instructionsOf_content?_cons (emission : Emission) (rest : List Emission) :
    instructionsOf ((emission :: rest).filterMap Emission.content?) =
      instructionsOf emission.content?.toList ++
        instructionsOf (rest.filterMap Emission.content?) := by
  unfold instructionsOf
  rw [← List.filterMap_append]
  cases emission <;> rfl

/-- The instructions that displaced statements emit, statement by statement. -/
theorem recodes_of_emissions {offset : Int} {table : OpcodeTable} {policy : Strictness}
    {symbols otherSymbols : SymbolTable} {statements others : List Statement}
    {emissions otherEmissions : List Emission} (tables : symbols.Displaced offset otherSymbols)
    (displaced : List.Forall₂ (Statement.Displaced offset) statements others)
    (emitted : statements.mapM (fun statement => statement.emission table symbols policy) =
      .ok emissions)
    (otherEmitted : others.mapM (fun statement => statement.emission table otherSymbols policy) =
      .ok otherEmissions) :
    List.Forall₂ (fun statement => statement.Recodes table offset symbols)
      (statements.filter Statement.isInstruction)
      ((instructionsOf (emissions.filterMap Emission.content?)).zip
        (instructionsOf (otherEmissions.filterMap Emission.content?))) := by
  induction displaced generalizing emissions otherEmissions with
  | nil =>
    cases emitted
    exact .nil
  | @cons statement other statements others here rest inductionHypothesis =>
    obtain ⟨emission, behind, first, inRest, rfl⟩ := mapM_cons_eq_ok emitted
    obtain ⟨otherEmission, otherBehind, otherFirst, inOthers, rfl⟩ := mapM_cons_eq_ok otherEmitted
    have later := inductionHypothesis inRest inOthers
    rw [instructionsOf_content?_cons, instructionsOf_content?_cons, List.filter_cons]
    -- Both statements emit an instruction, or neither does.
    by_cases asks : statement.operation = .instruction
    · obtain ⟨opcode, address, coded, named, rfl⟩ :=
        Statement.emission_of_isInstruction asks first
      obtain ⟨otherOpcode, otherAddress, otherCoded, otherNamed, rfl⟩ :=
        Statement.emission_of_isInstruction (here.operation.trans asks) otherFirst
      have sameOpcode : otherOpcode = opcode := by
        rw [here.mnemonic, coded] at otherCoded
        exact (Option.some.inj otherCoded).symm
      have notStart : statement.operation ≠ .start := by
        rw [asks]
        exact Operation.noConfusion
      have target := (here.targetAddress tables policy notStart address named).of_eq_ok otherNamed
      have inFilter : statement.isInstruction = true := decide_eq_true asks
      rw [if_pos inFilter]
      exact .cons ⟨coded, sameOpcode, target⟩ later
    · have otherAsks : other.operation ≠ .instruction := by
        rw [here.operation]
        exact asks
      have notInFilter : ¬ statement.isInstruction = true :=
        fun isTrue => asks (of_decide_eq_true isTrue)
      rw [if_neg notInFilter, Statement.instructionsOf_emission asks first,
        Statement.instructionsOf_emission otherAsks otherFirst]
      exact later

/-! ### Layouts -/

/-- Whether the lines of two sources differ only in the address that the start directive names,
which is the first line of either that has fields. -/
inductive DifferInStart (style : FieldStyle) (start moved : Nat) :
    List String → List String → Prop where
  | intro (before : List String) (line other : String) (after : List String)
      (label? : Option String) (operand otherOperand : String)
      (skipped : ∀ line ∈ before, Fields.ofLine? style line = none)
      (divided : Fields.ofLine? style line = some ⟨label?, "START", some operand⟩)
      (otherDivided : Fields.ofLine? style other = some ⟨label?, "START", some otherOperand⟩)
      (named : Radix.hexadecimal.readBelow? Statement.wordValues operand.toList = some start)
      (otherNamed : Radix.hexadecimal.readBelow? Statement.wordValues otherOperand.toList =
        some moved) :
      DifferInStart style start moved (before ++ line :: after) (before ++ other :: after)

theorem DifferInStart.symm {style : FieldStyle} {start moved : Nat} {lines others : List String}
    (differ : DifferInStart style start moved lines others) :
    DifferInStart style moved start others lines := by
  obtain ⟨before, line, other, after, label?, operand, otherOperand, skipped, divided, otherDivided,
    named, otherNamed⟩ := differ
  exact .intro before other line after label? otherOperand operand skipped otherDivided divided
    otherNamed named

theorem filterMap_zipIdx_of_skipped {style : FieldStyle} {before : List String}
    (skipped : ∀ line ∈ before, Fields.ofLine? style line = none) (first : Nat) :
    ((before.zipIdx first).filterMap fun (line, number) =>
      (Fields.ofLine? style line).map fun fields => (number, fields)) = [] := by
  refine List.filterMap_eq_nil_iff.mpr ?_
  rintro ⟨line, number⟩ member
  show (Fields.ofLine? style line).map (fun fields => (number, fields)) = none
  rw [skipped line (List.fst_mem_of_mem_zipIdx member), Option.map_none]

/-- Lines without fields have no bearing on the fields behind them, but for their numbers. -/
theorem numberedFields_of_skipped {style : FieldStyle} {before : List String} {line : String}
    {fields : Fields} (skipped : ∀ line ∈ before, Fields.ofLine? style line = none)
    (divided : Fields.ofLine? style line = some fields) (after : List String) :
    numberedFields style (before ++ line :: after) =
      (1 + before.length, fields) ::
        ((after.zipIdx (1 + before.length + 1)).filterMap fun (line, number) =>
          (Fields.ofLine? style line).map fun fields => (number, fields)) := by
  unfold numberedFields
  rw [List.zipIdx_append, List.filterMap_append, filterMap_zipIdx_of_skipped skipped,
    List.nil_append, List.zipIdx_cons, List.filterMap_cons]
  simp only [divided, Option.map_some]

/-- A start directive moves the first cursor to the address that it names, if that is in range. -/
theorem Cursor.place_start (table : OpcodeTable) (policy : Strictness) (line : Nat)
    (label? : Option String) {operand : String} {start : Nat}
    (named : Radix.hexadecimal.readBelow? Statement.wordValues operand.toList = some start) :
    Cursor.place {} table policy line ⟨label?, "START", some operand⟩ =
      if addressCount ≤ start then .error (.addressOutOfRange start line)
      else .ok (⟨⟨label?, "START", some operand⟩, line, start, .start⟩,
        { start := start, counter := start }) := by
  let asked : Statement := ⟨⟨label?, "START", some operand⟩, line, 0, .start⟩
  have read : asked.number .hexadecimal .startAddress = .ok start :=
    Statement.number_eq_ok_iff.mpr ⟨operand, rfl, named⟩
  have moves : Cursor.place {} table policy line ⟨label?, "START", some operand⟩ =
      (Cursor.moveTo {} asked >>= fun moved =>
        .ok ({ asked with address := moved.start }, moved)) := rfl
  rw [moves, Cursor.moveTo, read]
  show (if addressCount ≤ start then _ else _) >>= _ = _
  by_cases tooFar : addressCount ≤ start
  · rw [if_pos tooFar, if_pos tooFar]
    rfl
  · rw [if_neg tooFar, if_neg tooFar]
    rfl

/-- Whether two layouts are the same at displaced addresses. -/
structure Layout.Displaced (offset : Int) (layout other : Layout) : Prop where
  statements : List.Forall₂ (Statement.Displaced offset) layout.statements other.statements
  symbols : layout.symbols.Displaced offset other.symbols
  name : other.program.name = layout.program.name
  start : SicAssembler.Displaced offset layout.program.start other.program.start
  length : other.program.length = layout.program.length
  terminated : other.program.terminated = layout.program.terminated

theorem Walk.Displaced.layout {offset : Int} {found other : Walk}
    (displaced : found.Displaced offset other) :
    (Layout.ofWalk found).Displaced offset (Layout.ofWalk other) := by
  have start := displaced.cursor.start
  have counter := displaced.cursor.counter
  refine ⟨displaced.statements, displaced.cursor.symbols, rfl, start, ?_, displaced.terminated⟩
  show other.cursor.counter - other.cursor.start = found.cursor.counter - found.cursor.start
  unfold SicAssembler.Displaced at start counter
  omega

/-- A layout without another start directive is followed by that of a source with another start
address. -/
theorem Layout.ofLines_displaced {table : OpcodeTable} {options : Options}
    {lines others : List String} {start moved : Nat} {layout : Layout}
    (differ : DifferInStart options.fieldStyle start moved lines others)
    (laidOut : Layout.ofLines table options lines = .ok layout)
    (single : ∀ statement ∈ layout.statements.tail, statement.operation ≠ .start) :
    Reaches (layout.Displaced (moved - start)) (Layout.ofLines table options others) := by
  have notEmpty := Layout.not_isEmpty_of_ofLines laidOut
  obtain ⟨found, walks, rfl⟩ := Layout.ofLines_eq_ok laidOut
  obtain ⟨before, line, other, after, label?, operand, otherOperand, skipped, divided, otherDivided,
    named, otherNamed⟩ := differ
  rw [numberedFields_of_skipped skipped divided] at walks
  rw [Layout.ofLines, if_neg notEmpty, numberedFields_of_skipped skipped otherDivided]
  -- What remains are two walks whose lines differ in the start directive alone.
  suffices follows : Reaches (found.Displaced (moved - start)) (walk table options.duplicateLabels
      {} ((1 + before.length, ⟨label?, "START", some otherOperand⟩) :: _)) from
    follows.bind fun otherFound there => Or.inl ⟨_, rfl, there.layout⟩
  obtain ⟨statement, cursor, placed, ending⟩ := walk_cons_eq_ok_iff.mp walks
  rw [Cursor.place_start table options.duplicateLabels _ label? named] at placed
  have otherPlaced :=
    Cursor.place_start table options.duplicateLabels (1 + before.length) label? otherNamed
  split at placed
  · cases placed
  · cases placed
    by_cases tooFar : addressCount ≤ moved
    · rw [if_pos tooFar] at otherPlaced
      exact Or.inr ⟨_, _, walk_cons_of_place_error otherPlaced _⟩
    · rw [if_neg tooFar] at otherPlaced
      have here : SicAssembler.Displaced (moved - start : Int) start moved := by
        unfold SicAssembler.Displaced
        omega
      have cursors : Cursor.Displaced (moved - start : Int) { start := start, counter := start }
          { start := moved, counter := moved } := ⟨here, here, .nil⟩
      rcases ending with ⟨finishes, -⟩ | ⟨continues, later, walked, rfl⟩
      · cases finishes
      · refine Walk.Displaced.cons ?_ otherPlaced continues
          (cursors.walk table options.duplicateLabels walked single)
        exact ⟨here, rfl, rfl, rfl, rfl, fun notStart => absurd rfl notStart⟩

/-! ### The number of fragments -/

/-- Fragments that have bytes are not more than their bytes. -/
theorem length_content?_le {emissions : List Emission}
    (filled : ∀ emission ∈ emissions, emission.Filled) :
    (emissions.filterMap Emission.content?).length ≤ (emissions.flatMap Emission.image).length := by
  induction emissions with
  | nil => exact Nat.le_refl _
  | cons emission rest inductionHypothesis =>
    obtain ⟨first, later⟩ := List.forall_mem_cons.mp filled
    have count := inductionHypothesis later
    rw [List.flatMap_cons, List.length_append]
    cases emission with
    | gap => exact Nat.le_trans count (Nat.le_add_left _ _)
    | fragment address content =>
      have size : (Emission.fragment address content).image.length = content.size := by
        rw [Emission.image, length_placedAt, content.length_toBytes]
      have positive : 0 < content.size := first
      show (rest.filterMap Emission.content?).length + 1 ≤ _
      omega

/-- A program that fits into memory has no more fragments than there are addresses. -/
theorem Emitting.length_content?_le_addressCount {table : OpcodeTable} {symbols : SymbolTable}
    {policy : Strictness} {last : Cursor} {statements : List Statement}
    {emissions : List Emission}
    (emitting : Emitting table symbols policy {} statements last emissions)
    (single : ∀ statement ∈ statements.tail, statement.operation ≠ .start) :
    (emissions.filterMap Emission.content?).length ≤ addressCount := by
  obtain ⟨terminated, traces⟩ := emitting.traces
  have reached : last.counter ≤ addressCount := traces.counter_le (Nat.zero_le _)
  obtain ⟨-, whole⟩ := emitting.ascending_of_tail single
  have bytes := emitting.length_image_add_reserved
  have count := length_content?_le emitting.filled
  omega

/-! ### Object programs -/

/-- Whether a record is another one at displaced addresses. -/
inductive ObjectRecord.Displaced (offset : Int) : ObjectRecord → ObjectRecord → Prop where
  | header (name : String) (length : Nat) {start other : Nat}
      (there : SicAssembler.Displaced offset start other) :
      Displaced offset (.header name start length) (.header name other length)
  | text {record other : TextRecord} (there : record.Displaced offset other) :
      Displaced offset (.text record) (.text other)
  | finish {start other : Nat} (there : SicAssembler.Displaced offset start other) :
      Displaced offset (.finish start) (.finish other)

/-- Whether an assembly is another one, relocated by an offset. -/
structure Assembly.Relocated (table : OpcodeTable) (offset : Int) (assembly other : Assembly) :
    Prop where
  layout : assembly.layout.Displaced offset other.layout
  records : List.Forall₂ (ObjectRecord.Displaced offset) assembly.records other.records
  /-- The instructions of both programs are, one by one, those of the statements. -/
  instructions : List.Forall₂
    (fun statement => statement.Recodes table offset assembly.layout.symbols)
    (assembly.layout.statements.filter Statement.isInstruction)
    (assembly.records.instructions.zip other.records.instructions)

theorem ObjectProgram.beforeFinish_displaced {offset : Int} {statements others : List Statement}
    (displaced : List.Forall₂ (Statement.Displaced offset) statements others) :
    List.Forall₂ (Statement.Displaced offset) (beforeFinish statements) (beforeFinish others) := by
  induction displaced with
  | nil => exact .nil
  | @cons statement other statements others here rest inductionHypothesis =>
    by_cases finishes : statement.operation = .finish
    · rw [beforeFinish_cons_of_finish finishes,
        beforeFinish_cons_of_finish (here.operation.trans finishes)]
      exact .nil
    · have continues : other.operation ≠ .finish := by
        rw [here.operation]
        exact finishes
      rw [beforeFinish_cons finishes, beforeFinish_cons continues]
      exact .cons here inductionHypothesis

/-- The end directive is no instruction. -/
theorem Traces.filter_isInstruction_beforeFinish {cursor last : Cursor}
    {statements : List Statement} {terminated : Bool}
    (traces : Traces cursor statements last terminated) :
    (ObjectProgram.beforeFinish statements).filter Statement.isInstruction =
      statements.filter Statement.isInstruction := by
  obtain ⟨closing, parts, finishes⟩ := traces.beforeFinish_append
  have none : closing.filter Statement.isInstruction = [] := by
    refine List.filter_eq_nil_iff.mpr fun statement member asks => ?_
    have instruction : statement.operation = .instruction := of_decide_eq_true asks
    rw [finishes statement member] at instruction
    cases instruction
  conv_rhs => rw [parts, List.filter_append, none, List.append_nil]

theorem ObjectProgram.instructions_eq (name : String) (start length : Nat)
    (addressing : RecordAddressing) (emissions : List Emission) :
    instructions (.header name start length ::
        (textRecords addressing start emissions).map .text ++ [.finish start]) =
      instructionsOf (emissions.filterMap Emission.content?) := by
  rw [instructions, filterMap_textRecord?, instructionsOf_textRecords]

/-- The records of both ways of addressing are displaced, since no address is reduced. -/
theorem ObjectProgram.textRecords_displaced {offset : Int} {start otherStart : Nat}
    {emissions others : List Emission} (addressing : RecordAddressing)
    (here : SicAssembler.Displaced offset start otherStart)
    (there : List.Forall₂ (Emission.Displaced offset) emissions others)
    (start_lt : start < addressCount) (otherStart_lt : otherStart < addressCount)
    (contiguous : Contiguous none emissions) (othersContiguous : Contiguous none others)
    (few : (emissions.filterMap Emission.content?).length ≤ addressCount) :
    List.Forall₂ (TextRecord.Displaced offset) (textRecords addressing start emissions)
      (textRecords addressing otherStart others) := by
  cases addressing with
  | tracked => exact packTracked_displaced there contiguous.inRange othersContiguous.inRange
  | fixedIncrement => exact packFixed_displaced here there start_lt otherStart_lt few

/-- The object program of a layout is followed by that of a displaced layout. -/
theorem Layout.Displaced.ofLayout {offset : Int} {table : OpcodeTable} {options : Options}
    {lines others : List String} {layout other : Layout}
    (displaced : layout.Displaced offset other)
    (laidOut : Layout.ofLines table options lines = .ok layout)
    (otherLaidOut : Layout.ofLines table options others = .ok other)
    (single : ∀ statement ∈ layout.statements.tail, statement.operation ≠ .start) :
    Follows (fun records otherRecords =>
        Assembly.Relocated table offset ⟨layout, records⟩ ⟨other, otherRecords⟩)
      (ObjectProgram.ofLayout table options layout)
      (ObjectProgram.ofLayout table options other) := by
  intro records built
  obtain ⟨emissions, emitted, rfl⟩ := ObjectProgram.ofStatements_eq_ok built
  obtain ⟨found, walks, rfl⟩ := Layout.ofLines_eq_ok laidOut
  obtain ⟨otherFound, otherWalks, rfl⟩ := Layout.ofLines_eq_ok otherLaidOut
  have traces := walk_traces walks
  have otherTraces := walk_traces otherWalks
  have statements := ObjectProgram.beforeFinish_displaced displaced.statements
  rw [ObjectProgram.ofLayout, ObjectProgram.ofStatements,
    if_neg (Layout.not_isEmpty_of_ofLines otherLaidOut)]
  rcases Follows.mapM statements (fun _ _ here =>
      here.emission displaced.symbols table options.undefinedSymbols) emissions emitted with
    ⟨otherEmissions, otherEmitted, there⟩ | ⟨address, line, stopped⟩
  · rw [otherEmitted]
    refine Or.inl ⟨_, rfl, displaced, ?_, ?_⟩
    · have emitting := traces.emitting emitted
      have otherEmitting := otherTraces.emitting otherEmitted
      have texts := ObjectProgram.textRecords_displaced options.addressing displaced.start there
        (traces.start_lt (by decide)) (otherTraces.start_lt (by decide))
        (emitting.contiguous fun _ absent => nomatch absent)
        (otherEmitting.contiguous fun _ absent => nomatch absent)
        (emitting.length_content?_le_addressCount single)
      rw [displaced.name, displaced.length]
      refine .cons (.header _ _ displaced.start)
        (List.rel_append ?_ (.cons (.finish displaced.start) .nil))
      refine List.forall₂_map_left_iff.mpr (List.forall₂_map_right_iff.mpr ?_)
      exact texts.imp fun _ _ holds => .text holds
    · show List.Forall₂ _ (found.statements.filter Statement.isInstruction) _
      rw [ObjectProgram.instructions_eq, ObjectProgram.instructions_eq,
        ← traces.filter_isInstruction_beforeFinish]
      exact recodes_of_emissions displaced.symbols statements emitted otherEmitted
  · rw [stopped]
    exact Or.inr ⟨address, line, rfl⟩

/-! ### Relocation -/

/-- Whether no start directive comes behind the first statement. -/
def Assembly.StartsOnce (assembly : Assembly) : Prop :=
  ∀ statement ∈ assembly.layout.statements.tail, statement.operation ≠ .start

theorem assemble_follows {table : OpcodeTable} {options : Options} {source other : String}
    {start moved : Nat} {assembly : Assembly}
    (differ : DifferInStart options.fieldStyle start moved (linesOf source) (linesOf other))
    (assembled : assemble table options source = .ok assembly) (single : assembly.StartsOnce) :
    Reaches (assembly.Relocated table (moved - start)) (assemble table options other) := by
  obtain ⟨laidOut, built⟩ := assemble_eq_ok assembled
  rcases Layout.ofLines_displaced differ laidOut single with
    ⟨layout, otherLaidOut, displaced⟩ | ⟨address, line, stopped⟩
  · rw [assemble, otherLaidOut]
    refine (displaced.ofLayout laidOut otherLaidOut single _ built).bind fun records there => ?_
    exact Or.inl ⟨_, rfl, there⟩
  · rw [assemble, stopped]
    exact Or.inr ⟨address, line, rfl⟩

/-- Two sources that differ only in the address of their first start directive are assembled to
programs that are relocated by the difference. If only one of them is assembled, the other one
comes to an address that is out of range. -/
theorem assemble_relocates (table : OpcodeTable) (options : Options) (source other : String)
    (start moved : Nat)
    (differ : DifferInStart options.fieldStyle start moved (linesOf source) (linesOf other)) :
    (∀ assembly relocated, assemble table options source = .ok assembly → assembly.StartsOnce →
      assemble table options other = .ok relocated →
        assembly.Relocated table (moved - start) relocated) ∧
    (∀ assembly cause, assemble table options source = .ok assembly → assembly.StartsOnce →
      assemble table options other = .error cause →
        ∃ address line, cause = .addressOutOfRange address line) ∧
    (∀ relocated cause, assemble table options other = .ok relocated → relocated.StartsOnce →
      assemble table options source = .error cause →
        ∃ address line, cause = .addressOutOfRange address line) := by
  refine ⟨?_, ?_, ?_⟩
  · intro assembly relocated assembled single otherAssembled
    exact (assemble_follows differ assembled single).of_eq_ok otherAssembled
  · intro assembly cause assembled single stopped
    exact (assemble_follows differ assembled single).of_eq_error stopped
  · intro relocated cause assembled single stopped
    exact (assemble_follows differ.symm assembled single).of_eq_error stopped

/-- A program with a forward reference, a symbol that is not defined and a reservation, from two
start addresses. -/
theorem assemble_relocates_forward_reference :
    ∃ assembly, assemble .sicMachine {}
        ".\nP START 10\n LDA X\n LDA Q\n RESB 2\nX WORD 5\n END\n" = .ok assembly ∧
      assembly.StartsOnce ∧
      ∃ relocated, assemble .sicMachine {}
          ".\nP START 2F\n LDA X\n LDA Q\n RESB 2\nX WORD 5\n END\n" = .ok relocated ∧
        assembly.Relocated .sicMachine ((0x2F : Nat) - (0x10 : Nat)) relocated := by
  have lines : linesOf ".\nP START 10\n LDA X\n LDA Q\n RESB 2\nX WORD 5\n END\n" =
      ["."] ++ "P START 10" :: [" LDA X", " LDA Q", " RESB 2", "X WORD 5", " END"] := by
    decide +kernel
  have others : linesOf ".\nP START 2F\n LDA X\n LDA Q\n RESB 2\nX WORD 5\n END\n" =
      ["."] ++ "P START 2F" :: [" LDA X", " LDA Q", " RESB 2", "X WORD 5", " END"] := by
    decide +kernel
  have differ : DifferInStart .columns 0x10 0x2F
      (linesOf ".\nP START 10\n LDA X\n LDA Q\n RESB 2\nX WORD 5\n END\n")
      (linesOf ".\nP START 2F\n LDA X\n LDA Q\n RESB 2\nX WORD 5\n END\n") := by
    rw [lines, others]
    exact .intro _ _ _ _ (some "P") "10" "2F" (by decide +kernel) (by decide +kernel)
      (by decide +kernel) (by decide +kernel) (by decide +kernel)
  refine exists_ok_and
    (fun assembly => assembly.layout.statements.tail.all fun statement =>
      statement.operation != .start)
    (by decide +kernel) fun assembly assembled checked => ?_
  have single : assembly.StartsOnce := by simpa [Assembly.StartsOnce] using checked
  refine ⟨single, exists_ok_and (fun _ => true) (by decide +kernel) fun relocated result _ => ?_⟩
  exact (assemble_relocates .sicMachine {} _ _ 0x10 0x2F differ).1 assembly relocated assembled
    single result

end SicAssembler
