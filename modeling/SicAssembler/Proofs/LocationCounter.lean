/-
This file proves the law of the location counter, which ties the addresses of a
layout to the extents of its statements. The walk threads one counter through
all lines; in the finished layout that counter is no longer to be seen, and the
law states what it left behind. A statement stands right behind the one before
it, unless it is a start directive, which stands at the address it names. The
program begins at its last start directive, and its length is what the
statements from there on take up.

The last start directive may be anywhere, so a walk is split at it: what comes
before it has no bearing on the start and the length of the program.
-/

import Mathlib.Algebra.Order.Ring.Nat
import Mathlib.Data.List.Chain
import SicAssembler.ObjectProgram
import SicAssembler.Proofs.Placement

namespace SicAssembler

/-! ### Line numbers -/

theorem map_fst_filterMap_zipIdx_sublist (style : FieldStyle) (lines : List String) (first : Nat) :
    (((lines.zipIdx first).filterMap fun (line, number) =>
        (Fields.ofLine? style line).map fun fields => (number, fields)).map Prod.fst).Sublist
      (List.range' first lines.length) := by
  induction lines generalizing first with
  | nil => exact List.Sublist.slnil
  | cons line rest inductionHypothesis =>
    rw [List.zipIdx_cons, List.length_cons, List.range'_succ, List.filterMap_cons]
    cases divided : Fields.ofLine? style line with
    | none =>
      simp only [divided, Option.map_none]
      exact (inductionHypothesis (first + 1)).cons first
    | some fields =>
      simp only [divided, Option.map_some]
      exact (inductionHypothesis (first + 1)).cons_cons first

/-- The lines that have fields keep their order, and their numbers count from one. -/
theorem map_fst_numberedFields_sublist (style : FieldStyle) (lines : List String) :
    ((numberedFields style lines).map Prod.fst).Sublist (List.range' 1 lines.length) :=
  map_fst_filterMap_zipIdx_sublist style lines 1

/-- The line numbers of a walk are some of those of the source, in their order. -/
theorem walk_line_sublist {table : OpcodeTable} {policy : Strictness} {cursor : Cursor}
    {style : FieldStyle} {lines : List String} {found : Walk}
    (walks : walk table policy cursor (numberedFields style lines) = .ok found) :
    (found.statements.map Statement.line).Sublist (List.range' 1 lines.length) := by
  have numbers := (walk_lines walks).sublist.map Prod.fst
  rw [List.map_map] at numbers
  exact numbers.trans (map_fst_numberedFields_sublist style lines)

/-! ### Addresses -/

namespace Traces

variable {cursor last : Cursor} {statements : List Statement} {terminated : Bool}

/-- What holds of a statement that closes the program and of one that moves the cursor holds of
every statement of a walk. -/
theorem forall_mem {property : Statement → Prop} (traces : Traces cursor statements last terminated)
    (closing : ∀ cursor statement, Cursor.Closes cursor statement → property statement)
    (moving : ∀ cursor statement moved, Cursor.Moves cursor statement moved →
      property statement) :
    ∀ statement ∈ statements, property statement := by
  induction traces with
  | exhausted cursor => exact fun _ member => nomatch member
  | closed closes =>
    intro statement member
    rw [List.mem_singleton.mp member]
    exact closing _ _ closes
  | step moves later inductionHypothesis =>
    intro statement member
    rcases List.mem_cons.mp member with rfl | inRest
    · exact moving _ _ _ moves
    · exact inductionHypothesis statement inRest

/-- Every statement of a walk could be measured. -/
theorem measured (traces : Traces cursor statements last terminated) :
    ∀ statement ∈ statements, statement.size = .ok statement.extent := by
  refine traces.forall_mem (fun _ statement closes => ?_) fun _ _ _ moves => moves.measured
  simp only [Statement.size, Statement.extent, closes.finishes]

/-- A start directive stands at the address in its operand. -/
theorem start_named (traces : Traces cursor statements last terminated) :
    ∀ statement ∈ statements, statement.operation = .start →
      statement.number .hexadecimal .startAddress = .ok statement.address := by
  refine traces.forall_mem (fun _ statement closes begins => ?_)
    fun _ statement _ moves begins => ?_
  · rw [closes.finishes] at begins
    cases begins
  · cases moves with
    | restart _ named _ => exact named
    | advance ordinary _ _ _ _ => exact absurd begins ordinary

theorem head_address (traces : Traces cursor statements last terminated) :
    ∀ statement ∈ statements.head?, statement.operation ≠ .start →
      statement.address = cursor.counter := by
  intro statement member ordinary
  cases traces with
  | exhausted => cases member
  | closed closes =>
    cases member
    exact closes.here
  | step moves later =>
    cases member
    cases moves with
    | restart begins _ _ => exact absurd begins ordinary
    | advance _ _ here _ _ => exact here

/-- Each statement but a start directive stands right behind the one before it. -/
theorem isChain (traces : Traces cursor statements last terminated) :
    statements.IsChain fun previous statement =>
      statement.operation ≠ .start → statement.address = previous.address + previous.extent := by
  induction traces with
  | exhausted cursor => exact .nil
  | closed closes => exact .singleton _
  | step moves later inductionHypothesis =>
    refine List.isChain_cons.mpr ⟨fun next member ordinary => ?_, inductionHypothesis⟩
    rw [later.head_address next member ordinary, moves.counter_eq]

/-! ### Start and length -/

/-- Without a start directive the start stays, and the counter moves by all extents. -/
theorem of_no_start (traces : Traces cursor statements last terminated)
    (ordinary : ∀ statement ∈ statements, statement.operation ≠ .start) :
    last.start = cursor.start ∧
      last.counter = cursor.counter + (statements.map Statement.extent).sum := by
  induction traces with
  | exhausted cursor => exact ⟨rfl, rfl⟩
  | @closed cursor statement closes =>
    refine ⟨rfl, ?_⟩
    simp only [List.map_cons, List.map_nil, List.sum_cons, List.sum_nil, Statement.extent,
      closes.finishes, Nat.add_zero]
  | @step cursor moved last statement rest terminated moves later inductionHypothesis =>
    obtain ⟨start, counter⟩ := inductionHypothesis fun other member =>
      ordinary other (List.mem_cons_of_mem _ member)
    cases moves with
    | restart begins _ _ => exact absurd begins (ordinary statement List.mem_cons_self)
    | advance _ _ _ _ _ =>
      refine ⟨start, ?_⟩
      rw [counter, List.map_cons, List.sum_cons, Nat.add_assoc]

/-- A walk goes on from each of its statements that does not close the program. -/
theorem split {before after : List Statement} {statement : Statement}
    (continues : statement.operation ≠ .finish)
    (traces : Traces cursor (before ++ statement :: after) last terminated) :
    ∃ reached moved, Cursor.Moves reached statement moved ∧ Traces moved after last terminated := by
  induction before generalizing cursor with
  | nil =>
    cases traces with
    | closed closes => exact absurd closes.finishes continues
    | step moves later => exact ⟨_, _, moves, later⟩
  | cons head rest inductionHypothesis =>
    -- An end directive stands last, so the split is behind the first statement.
    rw [List.cons_append] at traces
    generalize remaining : rest ++ statement :: after = tail at traces
    cases traces with
    | closed closes => cases rest <;> cases remaining
    | step moves later =>
      rw [← remaining] at later
      exact inductionHypothesis later

/-- Behind its last start directive a walk counts from the address named there. -/
theorem of_last_start {before after : List Statement} {statement : Statement}
    (begins : statement.operation = .start)
    (traces : Traces cursor (before ++ statement :: after) last terminated)
    (ordinary : ∀ later ∈ after, later.operation ≠ .start) :
    last.start = statement.address ∧
      last.counter = statement.address + (after.map Statement.extent).sum := by
  have continues : statement.operation ≠ .finish := by
    rw [begins]
    exact Operation.noConfusion
  obtain ⟨reached, moved, moves, later⟩ := traces.split continues
  obtain ⟨start, counter⟩ := later.of_no_start ordinary
  cases moves with
  | restart _ _ _ => exact ⟨start, counter⟩
  | advance notStart _ _ _ _ => exact absurd begins notStart

/-- The counter never comes to lie before the start of the program. -/
theorem start_le_counter (traces : Traces cursor statements last terminated)
    (ordered : cursor.start ≤ cursor.counter) : last.start ≤ last.counter := by
  induction traces with
  | exhausted cursor => exact ordered
  | closed closes => exact ordered
  | step moves later inductionHypothesis =>
    exact inductionHypothesis (moves.start_le_counter ordered)

/-- A walk that was closed ends with the end directive, which stands at the counter. -/
theorem getLast?_of_terminated (traces : Traces cursor statements last true) :
    ∃ statement, statements.getLast? = some statement ∧ last.Closes statement := by
  generalize closed : true = flag at traces
  induction traces with
  | exhausted cursor => cases closed
  | closed closes => exact ⟨_, rfl, closes⟩
  | step moves later inductionHypothesis =>
    obtain ⟨statement, found, closes⟩ := inductionHypothesis closed
    exact ⟨statement, by rw [List.getLast?_cons, found, Option.getD_some], closes⟩

end Traces

/-! ### The law -/

/-- The law of the location counter, for a layout of that many lines and the last value of the
counter. -/
structure Layout.CounterLaw (layout : Layout) (lineCount counter : Nat) : Prop where
  /-- The line numbers ascend. -/
  lines_ascend : (layout.statements.map Statement.line).Pairwise (· < ·)
  /-- The line numbers are those of lines of the source. -/
  lines_within : ∀ statement ∈ layout.statements, 1 ≤ statement.line ∧ statement.line ≤ lineCount
  /-- A start directive stands at the number in its operand, which is hexadecimal. -/
  start_address : ∀ statement ∈ layout.statements, statement.operation = .start →
    ∃ operand, statement.operand? = some operand ∧
      Radix.hexadecimal.readBelow? Statement.wordValues operand.toList = some statement.address
  /-- The first statement stands at zero, unless it is a start directive. -/
  first_address : ∀ statement ∈ layout.statements.head?, statement.operation ≠ .start →
    statement.address = 0
  /-- Any other statement stands right behind the one before it. -/
  next_address : layout.statements.IsChain fun previous statement =>
    statement.operation ≠ .start → statement.address = previous.address + previous.extent
  /-- The extent of a statement is the size that its operand gives it. -/
  measured : ∀ statement ∈ layout.statements, statement.size = .ok statement.extent
  /-- The extent of a byte directive is the number of bytes that it emits. -/
  byte_extent : ∀ statement ∈ layout.statements, statement.operation = .byte →
    ∀ table symbols policy, ∃ content,
      statement.emission table symbols policy = .ok (.fragment statement.address content) ∧
        content.toBytes.length = statement.extent
  /-- Without a start directive the program begins at zero and all its statements count. -/
  program_without_start : (∀ statement ∈ layout.statements, statement.operation ≠ .start) →
    layout.program.start = 0 ∧
      layout.program.length = (layout.statements.map Statement.extent).sum
  /-- The program begins at its last start directive, and the statements behind it count. -/
  program_from_start : ∀ before statement after,
    layout.statements = before ++ statement :: after → statement.operation = .start →
      (∀ later ∈ after, later.operation ≠ .start) →
        layout.program.start = statement.address ∧
          layout.program.length = (after.map Statement.extent).sum
  /-- The program reaches as far as the counter got. -/
  program_end : layout.program.start + layout.program.length = counter
  /-- A program that was closed ends with its end directive, which stands at its end. -/
  finish_address : layout.program.terminated = true →
    ∃ statement, layout.statements.getLast? = some statement ∧ statement.operation = .finish ∧
      statement.address = layout.program.start + layout.program.length

/-- A byte directive that was measured emits as many bytes. -/
theorem Statement.emission_byte {statement : Statement} (constant : statement.operation = .byte)
    (measured : statement.size = .ok statement.extent) (table : OpcodeTable)
    (symbols : SymbolTable) (policy : Strictness) :
    ∃ content, statement.emission table symbols policy =
        .ok (.fragment statement.address content) ∧
      content.toBytes.length = statement.extent := by
  simp only [Statement.size, constant] at measured
  obtain ⟨value, read, size⟩ := map_eq_ok_iff.mp measured
  refine ⟨.bytes value.bytes, ?_, ?_⟩
  · simp only [Statement.emission, constant, read]
    rfl
  · rw [Fragment.toBytes, bytes_eq_constantBytes read]
    simp only [Statement.extent, constant]

/-- Every layout obeys the law of the location counter. -/
theorem Layout.ofLines_counterLaw (table : OpcodeTable) (options : Options) (lines : List String)
    (layout : Layout) (laidOut : Layout.ofLines table options lines = .ok layout) :
    ∃ found, walk table options.duplicateLabels {} (numberedFields options.fieldStyle lines) =
        .ok found ∧
      layout = Layout.ofWalk found ∧
      layout.CounterLaw lines.length found.cursor.counter := by
  obtain ⟨found, walks, rfl⟩ := Layout.ofLines_eq_ok laidOut
  have traces := walk_traces walks
  have numbers := walk_line_sublist walks
  have reached : found.cursor.start + (found.cursor.counter - found.cursor.start) =
      found.cursor.counter :=
    Nat.add_sub_cancel' (traces.start_le_counter (Nat.le_refl 0))
  refine ⟨found, walks, rfl, ?_⟩
  constructor
  case lines_ascend => exact List.Pairwise.sublist numbers List.pairwise_lt_range'
  case lines_within =>
    intro statement member
    have inRange := List.mem_range'_1.mp (numbers.subset (List.mem_map_of_mem member))
    omega
  case start_address =>
    intro statement member begins
    exact Statement.number_eq_ok_iff.mp (traces.start_named statement member begins)
  case first_address => exact traces.head_address
  case next_address => exact traces.isChain
  case measured => exact traces.measured
  case byte_extent =>
    intro statement member constant
    exact statement.emission_byte constant (traces.measured statement member)
  case program_without_start =>
    intro ordinary
    obtain ⟨start, counter⟩ := traces.of_no_start ordinary
    refine ⟨start, ?_⟩
    show found.cursor.counter - found.cursor.start = _
    rw [start, counter]
    exact Nat.zero_add _
  case program_from_start =>
    intro before statement after parts begins later
    change found.statements = _ at parts
    rw [parts] at traces
    obtain ⟨start, counter⟩ := traces.of_last_start begins later
    refine ⟨start, ?_⟩
    show found.cursor.counter - found.cursor.start = _
    rw [start, counter]
    exact Nat.add_sub_cancel_left _ _
  case program_end => exact reached
  case finish_address =>
    intro terminated
    change found.terminated = true at terminated
    rw [terminated] at traces
    obtain ⟨statement, final, closes⟩ := traces.getLast?_of_terminated
    exact ⟨statement, final, closes.finishes, closes.here.trans reached.symm⟩

/-- The law for a program with two start directives, a comment and a reservation. -/
theorem Layout.counterLaw_of_two_starts :
    ∃ layout, Layout.ofLines .sicMachine {}
        ["P START 10", ". note", " RESB 2", "Q START 20", "A LDA A", " BYTE C'EOF'", " END"] =
          .ok layout ∧
      layout.CounterLaw 7 0x26 := by
  refine exists_ok_and (fun layout => layout.program.start + layout.program.length == 0x26)
    (by decide +kernel) fun layout laidOut reached => ?_
  obtain ⟨found, -, -, law⟩ := Layout.ofLines_counterLaw .sicMachine {} _ layout laidOut
  have counter : found.cursor.counter = 0x26 := law.program_end.symm.trans (beq_iff_eq.mp reached)
  rw [← counter]
  exact law

end SicAssembler
