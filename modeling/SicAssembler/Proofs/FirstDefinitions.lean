/-
This file proves that the symbol table of a layout is the list of its first
definitions. A label is defined while its statement is placed, before the size
of the statement is known and before the statement is kept, and a label that is
known already is either passed over or stops the run. All the same the table
and the statements never drift apart: each statement that is kept adds exactly
its own definition, at its own address, and one that is known is not added
again. So the table can be read off the statements.

The name before a start directive is no definition. It is a symbol only if
another statement carries it as its label.
-/

import SicAssembler.Proofs.Symbols

namespace SicAssembler

/-! ### The first pair of each name -/

namespace Dictionary

variable {Value : Type}

/-- The pairs whose names no pair before them has. -/
def firstPairs : List (String × Value) → List (String × Value)
  | [] => []
  | pair :: rest => pair :: (firstPairs rest).filter fun later => later.1 ≠ pair.1

/-- A name that is known does not come again. -/
theorem filter_firstPairs_of_contains {dictionary : Dictionary Value} {pair : String × Value}
    (known : dictionary.contains pair.1 = true) (rest : List (String × Value)) :
    (firstPairs (pair :: rest)).filter (fun later => !dictionary.contains later.1) =
      (firstPairs rest).filter fun later => !dictionary.contains later.1 := by
  rw [firstPairs, List.filter_cons_of_neg (by simp [known]), List.filter_filter]
  refine List.filter_congr fun later _ => ?_
  by_cases same : later.1 = pair.1
  · simp [same, known]
  · simp [same]

theorem contains_insertIfNew (dictionary : Dictionary Value) (name other : String)
    (value : Value) :
    (dictionary.insertIfNew name value).contains other =
      (dictionary.contains other || decide (name = other)) := by
  rw [← isSome_get?, ← isSome_get?, get?_insertIfNew, Option.isSome_or]
  by_cases same : name = other <;> simp [same]

/-- Pairs that are added one by one leave behind the first pair of each name that was not known
before. -/
theorem entries_foldl_insertIfNew (pairs : List (String × Value)) (dictionary : Dictionary Value) :
    (pairs.foldl (fun found pair => found.insertIfNew pair.1 pair.2) dictionary).entries =
      dictionary.entries ++ (firstPairs pairs).filter fun pair => !dictionary.contains pair.1 := by
  induction pairs generalizing dictionary with
  | nil => simp [firstPairs]
  | cons pair rest inductionHypothesis =>
    rw [List.foldl_cons, inductionHypothesis]
    by_cases known : dictionary.contains pair.1 = true
    · rw [insertIfNew_of_contains pair.2 known, filter_firstPairs_of_contains known]
    · rw [entries_insertIfNew_of_not_contains pair.2 known, firstPairs,
        List.filter_cons_of_pos (by simpa using known), List.append_assoc, List.singleton_append,
        List.filter_filter]
      refine congrArg (fun later => dictionary.entries ++ pair :: later) ?_
      refine List.filter_congr fun later _ => ?_
      rw [contains_insertIfNew, Bool.not_or, eq_comm, Bool.and_comm]
      by_cases same : pair.1 = later.1 <;> simp [same, eq_comm]

theorem entries_ofListFirst (pairs : List (String × Value)) :
    (ofListFirst pairs).entries = firstPairs pairs := by
  rw [ofListFirst, entries_foldl_insertIfNew]
  simp [empty, contains]

end Dictionary

/-! ### The definitions of a walk -/

/-- The label that a statement defines, with its address. Start and end directives define none. -/
def Statement.definition? (statement : Statement) : Option (String × Nat) :=
  if statement.operation = .start ∨ statement.operation = .finish then none
  else statement.label?.map fun label => (label, statement.address)

/-- A step adds the definition of its statement. -/
theorem Cursor.Moves.symbols_eq {cursor moved : Cursor} {statement : Statement}
    (moves : cursor.Moves statement moved) :
    moved.symbols = statement.definition?.toList.foldl
      (fun found pair => found.insertIfNew pair.1 pair.2) cursor.symbols := by
  cases moves with
  | restart begins named inRange => simp [Statement.definition?, begins]
  | advance ordinary continues here measured inRange =>
    rw [Statement.definition?, if_neg (not_or.mpr ⟨ordinary, continues⟩), here]
    show cursor.symbolsAfter statement = _
    rw [Cursor.symbolsAfter]
    cases statement.label? <;> rfl

/-- A walk adds the definitions of its statements, in their order. -/
theorem Traces.symbols_eq {cursor last : Cursor} {statements : List Statement}
    {terminated : Bool} (traces : Traces cursor statements last terminated) :
    last.symbols = (statements.filterMap Statement.definition?).foldl
      (fun found pair => found.insertIfNew pair.1 pair.2) cursor.symbols := by
  induction traces with
  | exhausted cursor => rfl
  | closed closes => simp [Statement.definition?, closes.finishes]
  | @step cursor moved last statement rest terminated moves later inductionHypothesis =>
    rw [inductionHypothesis, moves.symbols_eq, ← List.foldl_append]
    refine congrArg (List.foldl _ cursor.symbols) ?_
    cases definition : statement.definition? with
    | none => rw [List.filterMap_cons_none definition, Option.toList_none, List.nil_append]
    | some pair =>
      rw [List.filterMap_cons_some definition, Option.toList_some, List.singleton_append]

/-! ### The law -/

namespace Layout

/-- The law of the symbol table. -/
structure SymbolLaw (layout : Layout) : Prop where
  /-- The entries are the definitions of the statements, the first for each label, in order. -/
  entries : layout.symbols.entries =
    Dictionary.firstPairs (layout.statements.filterMap Statement.definition?)
  /-- No label occurs twice. -/
  distinct : layout.symbols.names.Nodup
  /-- A label stands for the address of the first statement that defines it, and for none if there
  is no such statement. -/
  lookup : ∀ label, layout.symbols.get? label =
    (layout.statements.find? (Statement.defines label)).map Statement.address
  /-- The name before a start directive is a symbol only if a statement defines it as a label. -/
  start_name : ∀ statement ∈ layout.statements, statement.operation = .start →
    ∀ name ∈ statement.label?, layout.symbols.contains name = true ↔
      ∃ other ∈ layout.statements, other.operation ≠ .start ∧ other.operation ≠ .finish ∧
        other.label? = some name
  /-- Symbols stand for addresses, or for the one just behind the last of them. -/
  address_le : ∀ entry ∈ layout.symbols.entries, entry.2 ≤ 0x1000000

variable {table : OpcodeTable} {options : Options} {lines : List String} {layout : Layout}

/-- The symbols of a layout are the first definitions of its statements. -/
theorem symbols_eq_ofListFirst (laidOut : ofLines table options lines = .ok layout) :
    layout.symbols =
      Dictionary.ofListFirst (layout.statements.filterMap Statement.definition?) := by
  obtain ⟨found, walks, rfl⟩ := ofLines_eq_ok laidOut
  exact (walk_traces walks).symbols_eq

theorem contains_symbols_iff (laidOut : ofLines table options lines = .ok layout)
    (label : String) :
    layout.symbols.contains label = true ↔
      ∃ statement ∈ layout.statements, statement.operation ≠ .start ∧
        statement.operation ≠ .finish ∧ statement.label? = some label := by
  rw [← Dictionary.isSome_get?, get?_symbols laidOut, Statement.firstDefinition?,
    Option.isSome_map, List.find?_isSome]
  simp only [Statement.defines, Bool.and_eq_true, bne_iff_ne, beq_iff_eq, and_assoc]

/-- The symbol table of every layout is the list of its first definitions. -/
theorem ofLines_symbolLaw (table : OpcodeTable) (options : Options) (lines : List String)
    (layout : Layout) (laidOut : ofLines table options lines = .ok layout) :
    layout.SymbolLaw := by
  constructor
  case entries => rw [symbols_eq_ofListFirst laidOut, Dictionary.entries_ofListFirst]
  case distinct => exact layout.symbols.distinct
  case lookup => exact get?_symbols laidOut
  case start_name => exact fun _ _ _ name _ => contains_symbols_iff laidOut name
  case address_le =>
    intro entry member
    obtain ⟨statement, placed, same⟩ := exists_statement_of_mem_symbols laidOut member
    obtain ⟨found, walks, rfl⟩ := ofLines_eq_ok laidOut
    rw [← same]
    exact (walk_traces walks).address_le (Nat.zero_le _) statement placed

/-- The law for a program that goes back, defines a label again and has a label right behind the
last address. -/
theorem symbolLaw_of_repeated_label :
    ∃ layout, ofLines .sicMachine {}
        ["P START 20", "B RSUB", "Q START FFFFFF", "A BYTE X'00'", "B RESB 0", "C RESW 0", " END"] =
          .ok layout ∧
      layout.SymbolLaw ∧
      layout.symbols.entries = [("B", 0x20), ("A", 0xFFFFFF), ("C", 0x1000000)] := by
  refine exists_ok_and
    (fun layout => layout.symbols.entries = [("B", 0x20), ("A", 0xFFFFFF), ("C", 0x1000000)])
    (by decide +kernel) fun layout laidOut checked => ?_
  exact ⟨ofLines_symbolLaw .sicMachine {} _ layout laidOut, of_decide_eq_true checked⟩

/-- The name before a start directive is a symbol where another statement has it as its label. -/
theorem start_name_defined_elsewhere :
    ∃ layout, ofLines .sicMachine {} ["P START 10", "P RSUB", " END"] = .ok layout ∧
      ¬ ∀ statement ∈ layout.statements, statement.operation = .start →
        ∀ name ∈ statement.label?, layout.symbols.get? name = none :=
  exists_ok_and
    (fun layout => decide (¬ ∀ statement ∈ layout.statements, statement.operation = .start →
      ∀ name ∈ statement.label?, layout.symbols.get? name = none))
    (by decide +kernel) fun _ _ checked => of_decide_eq_true checked

end Layout

end SicAssembler
