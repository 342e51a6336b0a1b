/-
This file proves that the strict policies only refuse. A strict run and a
lenient run over the same source make the same steps until the strict one
stops, so whatever the strict run finishes is what the lenient run finishes.
The converse needs two conditions on the lenient result: no label is defined
twice, and every operand of an instruction is defined. A lenient run warns
exactly when one of them fails, so its report tells the same.

The two policies act at different places, one in the walk over the lines and
one when the emissions are made, and each is followed by itself. The labels
that a walk has already met are in its cursor; `Fresh` says of the statements
still to come that none of them defines a label which is known by then.
-/

import SicAssembler.Log
import SicAssembler.Proofs.MemoryImage

namespace SicAssembler

/-! ### Labels that are defined once -/

namespace Statement

/-- Whether a statement does not define a label that is already known. A start directive defines
none. -/
def FreshIn (statement : Statement) (symbols : SymbolTable) : Prop :=
  statement.operation ≠ .start → ∀ label ∈ statement.label?, ¬ symbols.contains label = true

/-- Whether two statements, neither of them a start directive, do not carry the same label. -/
def Apart (earlier later : Statement) : Prop :=
  earlier.operation ≠ .start → later.operation ≠ .start →
    ∀ label, ¬ (earlier.label? = some label ∧ later.label? = some label)

end Statement

/-- Whether none of the statements defines a label that is known, or that one of them has defined
before. -/
def Fresh (symbols : SymbolTable) (statements : List Statement) : Prop :=
  (∀ statement ∈ statements, statement.FreshIn symbols) ∧ statements.Pairwise Statement.Apart

theorem Cursor.Moves.contains_symbols {cursor moved : Cursor} {statement : Statement}
    (moves : cursor.Moves statement moved) (label : String) :
    moved.symbols.contains label = true ↔
      cursor.symbols.contains label = true ∨
        (statement.operation ≠ .start ∧ statement.label? = some label) := by
  have defined : statement.defines label = true ↔
      statement.operation ≠ .start ∧ statement.label? = some label := by
    simp [Statement.defines, moves.continues]
  rw [← Dictionary.isSome_get?, moves.get?_symbols, Option.isSome_or, Dictionary.isSome_get?,
    Bool.or_eq_true, ← defined]
  by_cases defines : statement.defines label = true <;> simp [defines]

/-- What a step leaves known is what was known before and the label of its own statement. -/
theorem Cursor.Moves.freshIn_iff {cursor moved : Cursor} {statement : Statement}
    (moves : cursor.Moves statement moved) (later : Statement) :
    later.FreshIn moved.symbols ↔ later.FreshIn cursor.symbols ∧ statement.Apart later := by
  constructor
  · intro fresh
    refine ⟨fun ordinary label carried known => ?_, fun first ordinary label both => ?_⟩
    · exact fresh ordinary label carried ((moves.contains_symbols label).mpr (Or.inl known))
    · exact fresh ordinary label both.2
        ((moves.contains_symbols label).mpr (Or.inr ⟨first, both.1⟩))
  · rintro ⟨fresh, apart⟩ ordinary label carried known
    rcases (moves.contains_symbols label).mp known with before | ⟨first, also⟩
    · exact fresh ordinary label carried before
    · exact apart first ordinary label ⟨also, carried⟩

theorem Cursor.Moves.fresh_cons_iff {cursor moved : Cursor} {statement : Statement}
    (moves : cursor.Moves statement moved) (rest : List Statement) :
    Fresh cursor.symbols (statement :: rest) ↔
      statement.FreshIn cursor.symbols ∧ Fresh moved.symbols rest := by
  have behind : (∀ later ∈ rest, later.FreshIn moved.symbols) ↔
      (∀ later ∈ rest, later.FreshIn cursor.symbols) ∧ ∀ later ∈ rest, statement.Apart later := by
    simp only [moves.freshIn_iff]
    exact ⟨fun both => ⟨fun later member => (both later member).1,
      fun later member => (both later member).2⟩,
      fun both later member => ⟨both.1 later member, both.2 later member⟩⟩
  rw [Fresh, Fresh, List.forall_mem_cons, List.pairwise_cons, behind]
  simp only [and_assoc]

theorem fresh_singleton_iff {symbols : SymbolTable} {statement : Statement} :
    Fresh symbols [statement] ↔ statement.FreshIn symbols := by
  simp [Fresh]

/-! ### The walk under both policies -/

namespace Cursor

theorem defineLabel_strict_iff {cursor labelled : Cursor} {statement : Statement} :
    cursor.defineLabel .strict statement = .ok labelled ↔
      cursor.defineLabel .lenient statement = .ok labelled ∧
        ∀ label ∈ statement.label?, ¬ cursor.symbols.contains label = true := by
  unfold defineLabel
  cases statement.label? with
  | none => simp
  | some label => by_cases known : cursor.symbols.contains label = true <;> simp [known]

/-- Start and end directives take effect alike under both policies. -/
theorem settle_of_not_ordinary {cursor : Cursor} {statement : Statement}
    (special : statement.operation = .start ∨ statement.operation = .finish)
    (policy other : Strictness) :
    cursor.settle policy statement = cursor.settle other statement := by
  unfold settle
  rcases special with begins | finishes
  · simp only [begins]
  · simp only [finishes]

theorem settle_strict_iff {cursor moved : Cursor} {statement settled : Statement}
    (here : statement.address = cursor.counter) :
    cursor.settle .strict statement = .ok (settled, moved) ↔
      cursor.settle .lenient statement = .ok (settled, moved) ∧
        settled.FreshIn cursor.symbols := by
  by_cases special : statement.operation = .start ∨ statement.operation = .finish
  · rw [settle_of_not_ordinary special .strict .lenient]
    refine (and_iff_left_of_imp fun settles => ?_).symm
    have same : settled.operation = statement.operation := by rw [settle_eq settles]
    obtain ⟨closes | moves, -⟩ := settle_cases here settles
    · intro _ label carried
      rw [closes.1.unlabelled] at carried
      cases carried
    · rcases special with begins | finishes
      · exact fun ordinary => absurd (same.trans begins) ordinary
      · exact absurd (same.trans finishes) moves.continues
  · obtain ⟨ordinary, continues⟩ := not_or.mp special
    rw [settle_of_ordinary ordinary continues, settle_of_ordinary ordinary continues,
      bind_eq_ok_iff, bind_eq_ok_iff]
    constructor
    · rintro ⟨labelled, defined, rest⟩
      obtain ⟨lenient, fresh⟩ := defineLabel_strict_iff.mp defined
      refine ⟨⟨labelled, lenient, rest⟩, fun _ => ?_⟩
      obtain ⟨size, -, rest⟩ := bind_eq_ok_iff.mp rest
      obtain ⟨after, -, result⟩ := bind_eq_ok_iff.mp rest
      cases result
      exact fresh
    · rintro ⟨⟨labelled, lenient, rest⟩, fresh⟩
      refine ⟨labelled, defineLabel_strict_iff.mpr ⟨lenient, ?_⟩, rest⟩
      obtain ⟨size, -, rest⟩ := bind_eq_ok_iff.mp rest
      obtain ⟨after, -, result⟩ := bind_eq_ok_iff.mp rest
      cases result
      exact fresh ordinary

theorem place_strict_iff {cursor moved : Cursor} {table : OpcodeTable} {line : Nat}
    {fields : Fields} {statement : Statement} :
    cursor.place table .strict line fields = .ok (statement, moved) ↔
      cursor.place table .lenient line fields = .ok (statement, moved) ∧
        statement.FreshIn cursor.symbols := by
  rw [place, place, bind_eq_ok_iff, bind_eq_ok_iff, ← exists_and_right]
  refine exists_congr fun asked => ?_
  rw [and_assoc]
  refine and_congr_right fun found => settle_strict_iff ?_
  unfold Cursor.statement at found
  split at found
  · cases found
    rfl
  · cases found

end Cursor

/-- A walk succeeds under the strict policy if it does so under the lenient one and no label is
defined twice, and it then finds the same. -/
theorem walk_strict_iff {table : OpcodeTable} {cursor : Cursor} {lines : List (Nat × Fields)}
    {found : Walk} :
    walk table .strict cursor lines = .ok found ↔
      walk table .lenient cursor lines = .ok found ∧ Fresh cursor.symbols found.statements := by
  induction lines generalizing cursor found with
  | nil =>
    rw [walk, walk]
    refine (and_iff_left_of_imp fun walks => ?_).symm
    cases walks
    exact ⟨List.forall_mem_nil _, .nil⟩
  | cons entry rest inductionHypothesis =>
    obtain ⟨line, fields⟩ := entry
    rw [walk_cons_eq_ok_iff, walk_cons_eq_ok_iff]
    constructor
    · rintro ⟨statement, moved, placed, ending⟩
      obtain ⟨lenient, fresh⟩ := Cursor.place_strict_iff.mp placed
      rcases ending with ⟨finishes, rfl⟩ | ⟨continues, later, walked, rfl⟩
      · exact ⟨⟨statement, moved, lenient, Or.inl ⟨finishes, rfl⟩⟩, fresh_singleton_iff.mpr fresh⟩
      · obtain ⟨walks, behind⟩ := inductionHypothesis.mp walked
        refine ⟨⟨statement, moved, lenient, Or.inr ⟨continues, later, walks, rfl⟩⟩, ?_⟩
        obtain ⟨⟨closes, -⟩ | moves, -⟩ := Cursor.place_cases lenient
        · exact absurd closes.finishes continues
        · exact (moves.fresh_cons_iff later.statements).mpr ⟨fresh, behind⟩
    · rintro ⟨⟨statement, moved, lenient, ending⟩, fresh⟩
      rcases ending with ⟨finishes, rfl⟩ | ⟨continues, later, walks, rfl⟩
      · exact ⟨statement, moved,
          Cursor.place_strict_iff.mpr ⟨lenient, fresh_singleton_iff.mp fresh⟩,
          Or.inl ⟨finishes, rfl⟩⟩
      · obtain ⟨⟨closes, -⟩ | moves, -⟩ := Cursor.place_cases lenient
        · exact absurd closes.finishes continues
        · obtain ⟨first, behind⟩ := (moves.fresh_cons_iff later.statements).mp fresh
          exact ⟨statement, moved, Cursor.place_strict_iff.mpr ⟨lenient, first⟩,
            Or.inr ⟨continues, later, inductionHypothesis.mpr ⟨walks, behind⟩, rfl⟩⟩

/-! ### The emissions under both policies -/

/-- Whether the operand of a statement, if it is an instruction and has one, is defined. -/
def Statement.Resolved (statement : Statement) (symbols : SymbolTable) : Prop :=
  statement.operation = .instruction →
    ∀ symbol ∈ statement.operand?, symbols.contains symbol = true

/-- A run whose first step succeeds under a further condition succeeds as a whole under it. -/
theorem bind_eq_ok_and_iff {Cause First Second : Type} {step other : Except Cause First}
    {next : First → Except Cause Second} {condition : Prop} {result : Second}
    (narrower : ∀ value, step = .ok value ↔ other = .ok value ∧ condition) :
    (step >>= next) = .ok result ↔ (other >>= next) = .ok result ∧ condition := by
  rw [bind_eq_ok_iff, bind_eq_ok_iff, ← exists_and_right]
  refine exists_congr fun value => ?_
  rw [narrower value, and_right_comm]

/-- A step over a list succeeds under a further condition on its items. -/
theorem mapM_eq_ok_and_iff {Cause Item Value : Type} {step other : Item → Except Cause Value}
    {condition : Item → Prop}
    (narrower : ∀ item value, step item = .ok value ↔ other item = .ok value ∧ condition item)
    {items : List Item} {values : List Value} :
    items.mapM step = .ok values ↔
      items.mapM other = .ok values ∧ ∀ item ∈ items, condition item := by
  induction items generalizing values with
  | nil => simp
  | cons head rest inductionHypothesis =>
    rw [List.mapM_cons, List.mapM_cons, List.forall_mem_cons, bind_eq_ok_iff, bind_eq_ok_iff]
    constructor
    · rintro ⟨value, first, run⟩
      obtain ⟨others, later, result⟩ := bind_eq_ok_iff.mp run
      obtain ⟨wider, holds⟩ := (narrower head value).mp first
      obtain ⟨widerRest, holdsInRest⟩ := inductionHypothesis.mp later
      exact ⟨⟨value, wider, bind_eq_ok_iff.mpr ⟨others, widerRest, result⟩⟩, holds, holdsInRest⟩
    · rintro ⟨⟨value, wider, run⟩, holds, holdsInRest⟩
      obtain ⟨others, widerRest, result⟩ := bind_eq_ok_iff.mp run
      refine ⟨value, (narrower head value).mpr ⟨wider, holds⟩, bind_eq_ok_iff.mpr ?_⟩
      exact ⟨others, inductionHypothesis.mpr ⟨widerRest, holdsInRest⟩, result⟩

namespace Statement

theorem targetAddress_strict_iff {statement : Statement} {symbols : SymbolTable}
    {address : UInt16} :
    statement.targetAddress symbols .strict = .ok address ↔
      statement.targetAddress symbols .lenient = .ok address ∧
        ∀ symbol ∈ statement.operand?, symbols.contains symbol = true := by
  unfold targetAddress
  cases statement.operand? with
  | none => simp
  | some symbol =>
    have known := symbols.isSome_get? symbol
    cases definition : symbols.get? symbol <;> simp [definition, ← known]

theorem emission_strict_iff {statement : Statement} {table : OpcodeTable} {symbols : SymbolTable}
    {emission : Emission} :
    statement.emission table symbols .strict = .ok emission ↔
      statement.emission table symbols .lenient = .ok emission ∧ statement.Resolved symbols := by
  by_cases asks : statement.operation = .instruction
  · have resolved : statement.Resolved symbols ↔
        ∀ symbol ∈ statement.operand?, symbols.contains symbol = true :=
      forall_prop_of_true asks
    simp only [Statement.emission, asks]
    refine bind_eq_ok_and_iff fun content => ?_
    rw [resolved]
    unfold Statement.instruction
    split
    · simp
    · exact bind_eq_ok_and_iff fun address => targetAddress_strict_iff
  · have resolved : statement.Resolved symbols := fun also => absurd also asks
    -- No other operation looks at the policy.
    rw [and_iff_left resolved]
    unfold Statement.emission
    cases operation : statement.operation
    case instruction => exact absurd operation asks
    all_goals exact Iff.rfl

end Statement

/-! ### Programs under both policies -/

/-- The choices with one policy for missing and for repeated symbols. -/
def Options.withPolicy (options : Options) (policy : Strictness) : Options :=
  { options with undefinedSymbols := policy, duplicateLabels := policy }

namespace Layout

/-- Whether no two statements but start directives carry the same label. -/
def LabelsDistinct (layout : Layout) : Prop := layout.statements.Pairwise Statement.Apart

/-- Whether the operand of every instruction is a defined symbol. -/
def OperandsDefined (layout : Layout) : Prop :=
  ∀ statement ∈ layout.statements, statement.Resolved layout.symbols

theorem fresh_empty_iff {statements : List Statement} :
    Fresh .empty statements ↔ statements.Pairwise Statement.Apart := by
  refine and_iff_right fun statement member ordinary label carried known => ?_
  cases known

theorem ofLines_strict_iff {table : OpcodeTable} {options : Options} {lines : List String}
    {layout : Layout} :
    ofLines table (options.withPolicy .strict) lines = .ok layout ↔
      ofLines table (options.withPolicy .lenient) lines = .ok layout ∧ layout.LabelsDistinct := by
  unfold ofLines
  by_cases empty : table.isEmpty = true
  · simp [empty]
  · rw [if_neg empty, if_neg empty, bind_eq_ok_iff, bind_eq_ok_iff]
    constructor
    · rintro ⟨found, walks, result⟩
      obtain ⟨lenient, fresh⟩ := walk_strict_iff.mp walks
      cases result
      exact ⟨⟨found, lenient, rfl⟩, fresh_empty_iff.mp fresh⟩
    · rintro ⟨⟨found, lenient, result⟩, distinct⟩
      cases result
      exact ⟨found, walk_strict_iff.mpr ⟨lenient, fresh_empty_iff.mpr distinct⟩, rfl⟩

/-- The end directive aside, all statements of a layout are emitted, so it is enough to ask of
those that their operands are defined. -/
theorem operandsDefined_iff {table : OpcodeTable} {options : Options} {lines : List String}
    {layout : Layout} (laidOut : ofLines table options lines = .ok layout) :
    layout.OperandsDefined ↔
      ∀ statement ∈ ObjectProgram.beforeFinish layout.statements,
        statement.Resolved layout.symbols := by
  obtain ⟨found, walks, rfl⟩ := ofLines_eq_ok laidOut
  refine ⟨fun defined statement member => ?_, fun defined statement member asks => ?_⟩
  · exact defined statement ((List.takeWhile_sublist _).subset member)
  · have continues : statement.operation ≠ .finish := by
      rw [asks]
      exact Operation.noConfusion
    exact defined statement ((walk_traces walks).mem_beforeFinish member continues) asks

end Layout

theorem ObjectProgram.ofLayout_strict_iff {table : OpcodeTable} {options other : Options}
    {lines : List String} {layout : Layout} {records : ObjectProgram}
    (laidOut : Layout.ofLines table other lines = .ok layout) :
    ofLayout table (options.withPolicy .strict) layout = .ok records ↔
      ofLayout table (options.withPolicy .lenient) layout = .ok records ∧
        layout.OperandsDefined := by
  unfold ofLayout ofStatements
  by_cases empty : table.isEmpty = true
  · simp [empty]
  · rw [if_neg empty, if_neg empty, Layout.operandsDefined_iff laidOut]
    refine bind_eq_ok_and_iff fun emissions => ?_
    exact mapM_eq_ok_and_iff fun statement emission => Statement.emission_strict_iff

theorem assemble_eq_ok_iff {table : OpcodeTable} {options : Options} {source : String}
    {assembly : Assembly} :
    assemble table options source = .ok assembly ↔
      Layout.ofLines table options (linesOf source) = .ok assembly.layout ∧
        ObjectProgram.ofLayout table options assembly.layout = .ok assembly.records := by
  refine ⟨assemble_eq_ok, ?_⟩
  rintro ⟨laidOut, built⟩
  unfold assemble
  rw [laidOut]
  show (ObjectProgram.ofLayout table options assembly.layout >>= _) = _
  rw [built]
  rfl

theorem assemble_strict_iff {table : OpcodeTable} {options : Options} {source : String}
    {assembly : Assembly} :
    assemble table (options.withPolicy .strict) source = .ok assembly ↔
      assemble table (options.withPolicy .lenient) source = .ok assembly ∧
        assembly.layout.LabelsDistinct ∧ assembly.layout.OperandsDefined := by
  rw [assemble_eq_ok_iff, assemble_eq_ok_iff, Layout.ofLines_strict_iff]
  constructor
  · rintro ⟨⟨laidOut, distinct⟩, built⟩
    obtain ⟨lenient, defined⟩ := (ObjectProgram.ofLayout_strict_iff laidOut).mp built
    exact ⟨⟨laidOut, lenient⟩, distinct, defined⟩
  · rintro ⟨⟨laidOut, lenient⟩, distinct, defined⟩
    exact ⟨⟨laidOut, distinct⟩, (ObjectProgram.ofLayout_strict_iff laidOut).mpr ⟨lenient, defined⟩⟩

end SicAssembler
