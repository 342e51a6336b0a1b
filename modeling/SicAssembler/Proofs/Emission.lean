/-
This file follows the emissions of a program along the walk that laid it out.
The layout moves its counter by the extent of a statement, and the object
program packs the fragment that the statement emits; the two never look at each
other. They agree because a fragment is exactly as long as the extent of its
statement, and because a statement that moves the counter without emitting
bytes, or puts it elsewhere, emits a gap. So the emissions of a layout join up.
-/

import SicAssembler.ObjectProgram
import SicAssembler.Proofs.Packing
import SicAssembler.Proofs.Placement

namespace SicAssembler

namespace Statement

/-! ### One statement -/

/-- The number of bytes that a statement reserves without placing anything there. -/
def reserved (statement : Statement) : Nat :=
  match statement.operation with
  | .reserveWords => statement.extent
  | .reserveBytes => statement.extent
  | _ => 0

/-- What a statement that emits something can emit. -/
inductive Emits (statement : Statement) : Emission → Prop where
  /-- A gap stands for all that the statement takes up. -/
  | gap (whole : statement.reserved = statement.extent) : Emits statement .gap
  /-- A fragment lies at the statement's address and is as long as its extent. -/
  | fragment (content : Fragment) (ordinary : statement.operation ≠ .start)
      (size : content.size = statement.extent) (filled : 0 < content.size)
      (unreserved : statement.reserved = 0) :
      Emits statement (.fragment statement.address content)

theorem instruction_eq_ok {statement : Statement} {table : OpcodeTable} {symbols : SymbolTable}
    {policy : Strictness} {content : Fragment}
    (read : statement.instruction table symbols policy = .ok content) :
    ∃ opcode address, table.get? statement.mnemonic = some opcode ∧
      statement.targetAddress symbols policy = .ok address ∧
      content = .instruction opcode address := by
  unfold Statement.instruction at read
  split at read
  · cases read
  · next opcode known =>
    obtain ⟨address, named, result⟩ := bind_eq_ok_iff.mp read
    exact ⟨opcode, address, known, named, (Except.ok.inj result).symm⟩

/-- Whatever a statement emits agrees with its extent. -/
theorem emission_emits {statement : Statement} {table : OpcodeTable} {symbols : SymbolTable}
    {policy : Strictness} {emission : Emission}
    (emitted : statement.emission table symbols policy = .ok emission) :
    statement.Emits emission := by
  unfold Statement.emission at emitted
  cases operation : statement.operation <;> simp only [operation] at emitted
  case start | finish | reserveWords | reserveBytes =>
    cases emitted
    exact .gap (by simp only [reserved, extent, operation])
  case word =>
    obtain ⟨value, -, result⟩ := bind_eq_ok_iff.mp emitted
    cases result
    refine .fragment _ ?_ ?_ ?_ ?_ <;> simp [operation, extent, reserved, Fragment.size]
  case byte =>
    obtain ⟨constant, read, result⟩ := bind_eq_ok_iff.mp emitted
    cases result
    obtain ⟨operand, present, value⟩ := constant_eq_ok_iff.mp read
    have positive : 0 < constant.bytes.length := ByteConstant.length_bytes_pos value
    refine .fragment _ ?_ ?_ positive ?_
    · rw [operation]
      exact Operation.noConfusion
    · simp only [extent, operation, Fragment.size, bytes_eq_constantBytes read]
    · simp only [reserved, operation]
  case instruction =>
    obtain ⟨content, read, result⟩ := bind_eq_ok_iff.mp emitted
    obtain ⟨opcode, address, -, -, rfl⟩ := instruction_eq_ok read
    cases result
    refine .fragment _ ?_ ?_ ?_ ?_ <;> simp [operation, extent, reserved, Fragment.size]

end Statement

/-! ### Object programs -/

theorem ObjectProgram.beforeFinish_cons_of_finish {statement : Statement}
    (finishes : statement.operation = .finish) (rest : List Statement) :
    beforeFinish (statement :: rest) = [] := by
  simp [beforeFinish, finishes]

theorem ObjectProgram.beforeFinish_cons {statement : Statement}
    (continues : statement.operation ≠ .finish) (rest : List Statement) :
    beforeFinish (statement :: rest) = statement :: beforeFinish rest := by
  simp [beforeFinish, continues]

/-- An object program is made of what the statements before the end directive emit. -/
theorem ObjectProgram.ofStatements_eq_ok {table : OpcodeTable} {options : Options}
    {symbols : SymbolTable} {program : Program} {statements : List Statement}
    {records : ObjectProgram}
    (built : ObjectProgram.ofStatements table options symbols program statements = .ok records) :
    ∃ emissions, (beforeFinish statements).mapM
        (fun statement => statement.emission table symbols options.undefinedSymbols) =
          .ok emissions ∧
      records = .header program.name program.start program.length ::
        (textRecords options.addressing program.start emissions).map .text ++
          [.finish program.start] := by
  unfold ObjectProgram.ofStatements at built
  split at built
  · cases built
  · obtain ⟨emissions, emitted, result⟩ := bind_eq_ok_iff.mp built
    exact ⟨emissions, emitted, (Except.ok.inj result).symm⟩

/-! ### Whole walks -/

/-- Nothing but an end directive comes behind the statements that are emitted. -/
theorem Traces.beforeFinish_append {cursor last : Cursor} {statements : List Statement}
    {terminated : Bool} (traces : Traces cursor statements last terminated) :
    ∃ closing, statements = ObjectProgram.beforeFinish statements ++ closing ∧
      ∀ statement ∈ closing, statement.operation = .finish := by
  induction traces with
  | exhausted cursor => exact ⟨[], rfl, List.forall_mem_nil _⟩
  | @closed cursor statement closes =>
    refine ⟨[statement], ?_, List.forall_mem_singleton.mpr closes.finishes⟩
    rw [ObjectProgram.beforeFinish_cons_of_finish closes.finishes, List.nil_append]
  | @step cursor moved last statement rest terminated moves later inductionHypothesis =>
    obtain ⟨closing, parts, finishes⟩ := inductionHypothesis
    refine ⟨closing, ?_, finishes⟩
    rw [ObjectProgram.beforeFinish_cons moves.continues, List.cons_append, ← parts]

theorem Traces.mem_beforeFinish {cursor last : Cursor} {statements : List Statement}
    {terminated : Bool} (traces : Traces cursor statements last terminated)
    {statement : Statement} (member : statement ∈ statements)
    (continues : statement.operation ≠ .finish) :
    statement ∈ ObjectProgram.beforeFinish statements := by
  obtain ⟨closing, parts, finishes⟩ := traces.beforeFinish_append
  rw [parts] at member
  rcases List.mem_append.mp member with inBefore | inClosing
  · exact inBefore
  · exact absurd (finishes statement inClosing) continues

/-- The emissions of the statements of a walk, between the cursors of the walk. -/
inductive Emitting (table : OpcodeTable) (symbols : SymbolTable) (policy : Strictness) :
    Cursor → List Statement → Cursor → List Emission → Prop where
  | exhausted (cursor : Cursor) : Emitting table symbols policy cursor [] cursor []
  | closed {cursor : Cursor} {statement : Statement} (closes : cursor.Closes statement) :
      Emitting table symbols policy cursor [statement] cursor []
  | step {cursor moved last : Cursor} {statement : Statement} {rest : List Statement}
      {emission : Emission} {emissions : List Emission} (moves : cursor.Moves statement moved)
      (emitted : statement.emission table symbols policy = .ok emission)
      (later : Emitting table symbols policy moved rest last emissions) :
      Emitting table symbols policy cursor (statement :: rest) last (emission :: emissions)

/-- A walk whose statements emit something is a walk with its emissions. -/
theorem Traces.emitting {table : OpcodeTable} {symbols : SymbolTable} {policy : Strictness}
    {cursor last : Cursor} {statements : List Statement} {terminated : Bool}
    {emissions : List Emission} (traces : Traces cursor statements last terminated)
    (emitted : (ObjectProgram.beforeFinish statements).mapM
      (fun statement => statement.emission table symbols policy) = .ok emissions) :
    Emitting table symbols policy cursor statements last emissions := by
  induction traces generalizing emissions with
  | exhausted cursor =>
    cases emitted
    exact .exhausted cursor
  | @closed cursor statement closes =>
    rw [ObjectProgram.beforeFinish_cons_of_finish closes.finishes] at emitted
    cases emitted
    exact .closed closes
  | @step cursor moved last statement rest terminated moves later inductionHypothesis =>
    rw [ObjectProgram.beforeFinish_cons moves.continues] at emitted
    obtain ⟨emission, others, first, inRest, rfl⟩ := mapM_cons_eq_ok emitted
    exact .step moves first (inductionHypothesis inRest)

namespace Emitting

variable {table : OpcodeTable} {symbols : SymbolTable} {policy : Strictness}
  {cursor last : Cursor} {statements : List Statement} {emissions : List Emission}

theorem traces (emitting : Emitting table symbols policy cursor statements last emissions) :
    ∃ terminated, Traces cursor statements last terminated := by
  induction emitting with
  | exhausted cursor => exact ⟨false, .exhausted cursor⟩
  | closed closes => exact ⟨true, .closed closes⟩
  | step moves emitted later inductionHypothesis =>
    obtain ⟨terminated, steps⟩ := inductionHypothesis
    exact ⟨terminated, .step moves steps⟩

/-- The emissions of a walk join up, behind a record that ends where the walk begins. -/
theorem contiguous {reached : Option Nat}
    (emitting : Emitting table symbols policy cursor statements last emissions)
    (here : ∀ limit ∈ reached, cursor.counter = limit) : Contiguous reached emissions := by
  induction emitting generalizing reached with
  | exhausted cursor => trivial
  | closed closes => trivial
  | @step cursor moved last statement rest emission emissions moves emitted later
      inductionHypothesis =>
    cases Statement.emission_emits emitted with
    | gap whole =>
      show Contiguous none emissions
      exact inductionHypothesis fun _ absent => nomatch absent
    | fragment content ordinary size filled unreserved =>
      -- The fragment is as long as the extent, so it ends where the next statement stands.
      have behind : moved.counter = statement.address + content.size := by
        rw [moves.counter_eq, size]
      have inRange : moved.counter ≤ addressCount := moves.counter_le
      cases moves with
      | restart begins _ _ => exact absurd begins ordinary
      | advance _ _ atCounter _ _ =>
        refine ⟨fun limit ends => atCounter.trans (here limit ends), ?_, ?_⟩
        · rw [← behind]
          exact Nat.lt_of_le_of_lt inRange (by decide)
        · refine inductionHypothesis ?_
          rintro limit ⟨⟩
          exact behind

/-- The fragments of a walk have bytes. -/
theorem filled (emitting : Emitting table symbols policy cursor statements last emissions) :
    ∀ emission ∈ emissions, emission.Filled := by
  induction emitting with
  | exhausted cursor => exact fun _ member => nomatch member
  | closed closes => exact fun _ member => nomatch member
  | step moves emitted later inductionHypothesis =>
    intro other member
    rcases List.mem_cons.mp member with rfl | inRest
    · cases Statement.emission_emits emitted with
      | gap whole => trivial
      | fragment content ordinary size positive unreserved => exact positive
    · exact inductionHypothesis other inRest

/-- The bytes of a walk lie at addresses that there are. -/
theorem image_lt (emitting : Emitting table symbols policy cursor statements last emissions) :
    ∀ place ∈ emissions.flatMap Emission.image, place.1 < addressCount := by
  induction emitting with
  | exhausted cursor => exact fun _ member => nomatch member
  | closed closes => exact fun _ member => nomatch member
  | @step cursor moved last statement rest emission emissions moves emitted later
      inductionHypothesis =>
    rw [List.flatMap_cons]
    refine List.forall_mem_append.mpr ⟨fun place member => ?_, inductionHypothesis⟩
    cases Statement.emission_emits emitted with
    | gap whole => cases member
    | fragment content ordinary size positive unreserved =>
      have address : place.1 ∈ List.range' statement.address content.toBytes.length := by
        rw [← map_fst_placedAt]
        exact List.mem_map_of_mem member
      have behind : statement.address + statement.extent ≤ addressCount := by
        rw [← moves.counter_eq]
        exact moves.counter_le
      rw [List.mem_range'_1, content.length_toBytes, size] at address
      exact Nat.lt_of_lt_of_le address.2 behind

end Emitting

end SicAssembler
