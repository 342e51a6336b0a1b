/-
This file proves that the symbol table of a layout holds the first definition
of each label. A statement that carries a label defines it at its own address,
and a label that is already known keeps the address it has, so looking a label
up in the finished table finds the first statement that carries it. The name
before a start directive is no label, and an end directive carries none.
-/

import SicAssembler.Proofs.Dictionary
import SicAssembler.Proofs.Placement

namespace SicAssembler

/-! ### First definitions -/

namespace Statement

/-- Whether a statement defines a label. -/
def defines (label : String) (statement : Statement) : Bool :=
  statement.operation != .start && statement.operation != .finish &&
    statement.label? == some label

/-- The address of the first of the statements that defines a label. -/
def firstDefinition? (statements : List Statement) (label : String) : Option Nat :=
  (statements.find? (defines label)).map Statement.address

theorem firstDefinition?_cons (statement : Statement) (rest : List Statement) (label : String) :
    firstDefinition? (statement :: rest) label =
      (if statement.defines label then some statement.address else none).or
        (firstDefinition? rest label) := by
  unfold firstDefinition?
  rw [List.find?_cons]
  cases statement.defines label <;> simp

end Statement

/-- A step adds the label of its statement, unless it is a start directive. -/
theorem Cursor.Moves.get?_symbols {cursor moved : Cursor} {statement : Statement}
    (moves : cursor.Moves statement moved) (label : String) :
    moved.symbols.get? label =
      (cursor.symbols.get? label).or
        (if statement.defines label then some statement.address else none) := by
  cases moves with
  | restart begins named inRange =>
    have undefined : statement.defines label = false := by simp [Statement.defines, begins]
    simp [undefined]
  | advance ordinary continues here measured inRange =>
    have defined : statement.defines label = (statement.label? == some label) := by
      simp [Statement.defines, ordinary, continues]
    show (cursor.symbolsAfter statement).get? label = _
    rw [defined, here, Cursor.symbolsAfter]
    cases statement.label? with
    | none => simp
    | some name => simp [Dictionary.get?_insertIfNew]

/-- The symbols after a walk are those before it and then the first definitions in it. -/
theorem Traces.get?_symbols {cursor last : Cursor} {statements : List Statement}
    {terminated : Bool} (traces : Traces cursor statements last terminated) (label : String) :
    last.symbols.get? label =
      (cursor.symbols.get? label).or (Statement.firstDefinition? statements label) := by
  induction traces with
  | exhausted cursor => simp [Statement.firstDefinition?]
  | @closed cursor statement closes =>
    have undefined : statement.defines label = false := by
      simp [Statement.defines, closes.finishes]
    simp [Statement.firstDefinition?, undefined]
  | step moves later inductionHypothesis =>
    rw [inductionHypothesis, moves.get?_symbols label, Statement.firstDefinition?_cons,
      Option.or_assoc]

/-- A label of a layout stands for the address of the first statement that defines it. -/
theorem Layout.get?_symbols {table : OpcodeTable} {options : Options} {lines : List String}
    {layout : Layout} (laidOut : Layout.ofLines table options lines = .ok layout)
    (label : String) :
    layout.symbols.get? label = Statement.firstDefinition? layout.statements label := by
  obtain ⟨found, walks, rfl⟩ := Layout.ofLines_eq_ok laidOut
  exact (walk_traces walks).get?_symbols label

/-- A symbol stands for the address of a statement. -/
theorem Layout.exists_statement_of_mem_symbols {table : OpcodeTable} {options : Options}
    {lines : List String} {layout : Layout}
    (laidOut : Layout.ofLines table options lines = .ok layout) {entry : String × Nat}
    (member : entry ∈ layout.symbols.entries) :
    ∃ statement ∈ layout.statements, statement.address = entry.2 := by
  have found := layout.symbols.get?_of_mem member
  rw [Layout.get?_symbols laidOut, Statement.firstDefinition?, Option.map_eq_some_iff] at found
  obtain ⟨statement, first, address⟩ := found
  exact ⟨statement, List.mem_of_find?_eq_some first, address⟩

end SicAssembler
