/-
This file says once what a line can do to the cursor of a walk, and what a
finished walk is made of. A start directive moves the cursor to the address in
its operand, an end directive leaves it where it is and stops the walk, and any
other statement is placed at the counter, defines its label there and moves the
counter on by its extent. What holds of every layout is proved along these
steps, without opening the walk again.
-/

import SicAssembler.Layout
import SicAssembler.Proofs.Statement

namespace SicAssembler

namespace Cursor

/-! ### One step -/

/-- The symbols after the label of a statement is defined at the current address; a known label
keeps the address it has. -/
def symbolsAfter (cursor : Cursor) (statement : Statement) : SymbolTable :=
  match statement.label? with
  | none => cursor.symbols
  | some label => cursor.symbols.insertIfNew label cursor.counter

/-- The cursor before and after a statement that does not close the program. -/
inductive Moves (cursor : Cursor) (statement : Statement) : Cursor → Prop where
  /-- A start directive stands at the address it names, and so does what follows. -/
  | restart (begins : statement.operation = .start)
      (named : statement.number .hexadecimal .startAddress = .ok statement.address)
      (inRange : statement.address < addressCount) :
      Moves cursor statement
        { cursor with start := statement.address, counter := statement.address }
  /-- Any other statement stands at the counter, which moves past it. -/
  | advance (ordinary : statement.operation ≠ .start) (continues : statement.operation ≠ .finish)
      (here : statement.address = cursor.counter)
      (measured : statement.size = .ok statement.extent)
      (inRange : cursor.counter + statement.extent ≤ addressCount) :
      Moves cursor statement
        { start := cursor.start
          counter := cursor.counter + statement.extent
          symbols := cursor.symbolsAfter statement }

/-- A statement that closes the program, with the cursor where it stands. -/
structure Closes (cursor : Cursor) (statement : Statement) : Prop where
  finishes : statement.operation = .finish
  unlabelled : statement.label? = none
  here : statement.address = cursor.counter

/-- A label that is defined changes the symbols alone, under either policy. -/
theorem defineLabel_eq_ok {cursor labelled : Cursor} {policy : Strictness}
    {statement : Statement} (defined : cursor.defineLabel policy statement = .ok labelled) :
    labelled = { cursor with symbols := cursor.symbolsAfter statement } := by
  unfold defineLabel at defined
  unfold symbolsAfter
  cases label : statement.label? with
  | none =>
    rw [label] at defined
    exact (Except.ok.inj defined).symm
  | some name =>
    simp only [label] at defined ⊢
    by_cases known : cursor.symbols.contains name = true
    · rw [if_pos known] at defined
      rw [Dictionary.insertIfNew_of_contains _ known]
      cases policy with
      | lenient => exact (Except.ok.inj defined).symm
      | strict => cases defined
    · rw [if_neg known] at defined
      exact (Except.ok.inj defined).symm

theorem moveBy_eq_ok_iff {cursor moved : Cursor} {size line : Nat} :
    cursor.moveBy size line = .ok moved ↔
      cursor.counter + size ≤ addressCount ∧
        moved = { cursor with counter := cursor.counter + size } := by
  unfold moveBy
  by_cases tooFar : addressCount < cursor.counter + size
  · simp [tooFar, Nat.not_le_of_lt tooFar]
  · simp [tooFar, Nat.le_of_not_lt tooFar, eq_comm]

theorem moveTo_eq_ok_iff {cursor moved : Cursor} {statement : Statement} :
    cursor.moveTo statement = .ok moved ↔
      ∃ start, statement.number .hexadecimal .startAddress = .ok start ∧
        start < addressCount ∧ moved = { cursor with start := start, counter := start } := by
  rw [moveTo, bind_eq_ok_iff]
  refine exists_congr fun start => and_congr_right fun _ => ?_
  by_cases tooFar : addressCount ≤ start
  · simp [tooFar, Nat.not_lt_of_le tooFar]
  · simp [tooFar, Nat.lt_of_not_le tooFar, eq_comm]

/-- A statement at the counter that takes effect closes the program or moves the cursor. It keeps
all that its line says. -/
theorem settle_cases {cursor moved : Cursor} {policy : Strictness}
    {statement settled : Statement} (here : statement.address = cursor.counter)
    (settles : cursor.settle policy statement = .ok (settled, moved)) :
    (cursor.Closes settled ∧ moved = cursor ∨ cursor.Moves settled moved) ∧
      settled.line = statement.line ∧ settled.toFields = statement.toFields := by
  unfold settle at settles
  cases operation : statement.operation <;> simp only [operation] at settles
  case start =>
    obtain ⟨after, move, result⟩ := bind_eq_ok_iff.mp settles
    obtain ⟨start, named, inRange, rfl⟩ := moveTo_eq_ok_iff.mp move
    cases result
    exact ⟨Or.inr (.restart rfl named inRange), rfl, rfl⟩
  case finish =>
    cases label : statement.label? with
    | some name =>
      rw [label] at settles
      cases settles
    | none =>
      rw [label] at settles
      cases settles
      exact ⟨Or.inl ⟨⟨operation, label, here⟩, rfl⟩, rfl, rfl⟩
  -- The five others define their label, are measured and move the counter, in this order.
  all_goals
    obtain ⟨labelled, defined, rest⟩ := bind_eq_ok_iff.mp settles
    obtain ⟨size, measured, rest⟩ := bind_eq_ok_iff.mp rest
    obtain ⟨after, move, result⟩ := bind_eq_ok_iff.mp rest
    obtain rfl := defineLabel_eq_ok defined
    obtain ⟨inRange, rfl⟩ := moveBy_eq_ok_iff.mp move
    obtain rfl := Statement.size_eq_extent measured
    cases result
    refine ⟨Or.inr (.advance ?_ ?_ here measured inRange), rfl, rfl⟩
    · rw [operation]
      exact Operation.noConfusion
    · rw [operation]
      exact Operation.noConfusion

/-- A line that is placed closes the program or moves the cursor, with the line's own number and
fields. -/
theorem place_cases {cursor moved : Cursor} {table : OpcodeTable} {policy : Strictness}
    {line : Nat} {fields : Fields} {statement : Statement}
    (placed : cursor.place table policy line fields = .ok (statement, moved)) :
    (cursor.Closes statement ∧ moved = cursor ∨ cursor.Moves statement moved) ∧
      statement.line = line ∧ statement.toFields = fields := by
  obtain ⟨asked, found, settles⟩ := bind_eq_ok_iff.mp placed
  unfold Cursor.statement at found
  split at found
  · cases found
    exact settle_cases rfl settles
  · cases found

theorem settle_of_ordinary {cursor : Cursor} {policy : Strictness} {statement : Statement}
    (ordinary : statement.operation ≠ .start) (continues : statement.operation ≠ .finish) :
    cursor.settle policy statement = (do
      let labelled ← cursor.defineLabel policy statement
      let size ← statement.size
      let moved ← labelled.moveBy size statement.line
      return (statement, moved)) := by
  unfold settle
  split
  · next begins => exact absurd begins ordinary
  · next finishes => exact absurd finishes continues
  · rfl

theorem settle_of_finish {cursor : Cursor} {policy : Strictness} {statement : Statement}
    (finishes : statement.operation = .finish) :
    cursor.settle policy statement =
      match statement.label? with
      | some _ => .error (.invalidMnemonic statement.mnemonic statement.line)
      | none => .ok (statement, cursor) := by
  unfold settle
  split
  · next begins =>
    rw [finishes] at begins
    cases begins
  · rfl
  · next continues => exact absurd finishes continues

/-- A statement that takes effect changes in its address alone. -/
theorem settle_eq {cursor moved : Cursor} {policy : Strictness} {statement settled : Statement}
    (settles : cursor.settle policy statement = .ok (settled, moved)) :
    settled = { statement with address := settled.address } := by
  unfold settle at settles
  split at settles
  · obtain ⟨after, -, result⟩ := bind_eq_ok_iff.mp settles
    cases result
    rfl
  · split at settles
    · cases settles
    · cases settles
      rfl
  · obtain ⟨labelled, -, rest⟩ := bind_eq_ok_iff.mp settles
    obtain ⟨size, -, rest⟩ := bind_eq_ok_iff.mp rest
    obtain ⟨after, -, result⟩ := bind_eq_ok_iff.mp rest
    cases result
    rfl

/-- The mnemonic of a statement that is placed stands for its operation. -/
theorem place_classified {cursor moved : Cursor} {table : OpcodeTable} {policy : Strictness}
    {line : Nat} {fields : Fields} {statement : Statement}
    (placed : cursor.place table policy line fields = .ok (statement, moved)) :
    Operation.ofMnemonic? table statement.mnemonic = some statement.operation := by
  obtain ⟨asked, found, settles⟩ := bind_eq_ok_iff.mp placed
  unfold Cursor.statement at found
  split at found
  · next operation classified =>
    cases found
    rw [settle_eq settles]
    exact classified
  · cases found

/-- Whatever a statement does, what follows it stands right behind it. -/
theorem Moves.counter_eq {cursor moved : Cursor} {statement : Statement}
    (moves : cursor.Moves statement moved) :
    moved.counter = statement.address + statement.extent := by
  cases moves with
  | restart begins named inRange => simp only [Statement.extent, begins, Nat.add_zero]
  | advance ordinary continues here measured inRange => rw [here]

theorem Moves.continues {cursor moved : Cursor} {statement : Statement}
    (moves : cursor.Moves statement moved) : statement.operation ≠ .finish := by
  cases moves with
  | restart begins named inRange =>
    rw [begins]
    exact Operation.noConfusion
  | advance ordinary continues here measured inRange => exact continues

/-- A statement is measured before the cursor moves. -/
theorem Moves.measured {cursor moved : Cursor} {statement : Statement}
    (moves : cursor.Moves statement moved) : statement.size = .ok statement.extent := by
  cases moves with
  | restart begins named inRange => simp only [Statement.size, Statement.extent, begins]
  | advance ordinary continues here measured inRange => exact measured

theorem Moves.counter_le {cursor moved : Cursor} {statement : Statement}
    (moves : cursor.Moves statement moved) : moved.counter ≤ addressCount := by
  cases moves with
  | restart begins named inRange => exact Nat.le_of_lt inRange
  | advance ordinary continues here measured inRange => exact inRange

theorem Moves.start_lt {cursor moved : Cursor} {statement : Statement}
    (moves : cursor.Moves statement moved) (inRange : cursor.start < addressCount) :
    moved.start < addressCount := by
  cases moves with
  | restart begins named named_lt => exact named_lt
  | advance ordinary continues here measured counter_le => exact inRange

theorem Moves.start_le_counter {cursor moved : Cursor} {statement : Statement}
    (moves : cursor.Moves statement moved) (ordered : cursor.start ≤ cursor.counter) :
    moved.start ≤ moved.counter := by
  cases moves with
  | restart begins named inRange => exact Nat.le_refl _
  | advance ordinary continues here measured inRange =>
    exact Nat.le_trans ordered (Nat.le_add_right _ _)

end Cursor

/-! ### Whole walks -/

/-- The statements of a finished walk between two cursors, and whether an end directive closed
it. -/
inductive Traces : Cursor → List Statement → Cursor → Bool → Prop where
  | exhausted (cursor : Cursor) : Traces cursor [] cursor false
  | closed {cursor : Cursor} {statement : Statement} (closes : cursor.Closes statement) :
      Traces cursor [statement] cursor true
  | step {cursor moved last : Cursor} {statement : Statement} {rest : List Statement}
      {terminated : Bool} (moves : cursor.Moves statement moved)
      (later : Traces moved rest last terminated) :
      Traces cursor (statement :: rest) last terminated

/-- A walk that goes on places its first line, and stops there if that line closes the program. -/
theorem walk_cons_eq_ok_iff {table : OpcodeTable} {policy : Strictness} {cursor : Cursor}
    {line : Nat} {fields : Fields} {rest : List (Nat × Fields)} {found : Walk} :
    walk table policy cursor ((line, fields) :: rest) = .ok found ↔
      ∃ statement moved, cursor.place table policy line fields = .ok (statement, moved) ∧
        (statement.operation = .finish ∧ found = ⟨[statement], moved, true⟩ ∨
          statement.operation ≠ .finish ∧ ∃ later, walk table policy moved rest = .ok later ∧
            found = { later with statements := statement :: later.statements }) := by
  rw [walk, bind_eq_ok_iff]
  constructor
  · rintro ⟨⟨statement, moved⟩, placed, walks⟩
    refine ⟨statement, moved, placed, ?_⟩
    dsimp only at walks
    by_cases finishes : statement.operation = .finish
    · rw [if_pos finishes] at walks
      exact Or.inl ⟨finishes, (Except.ok.inj walks).symm⟩
    · rw [if_neg finishes] at walks
      obtain ⟨later, walked, result⟩ := bind_eq_ok_iff.mp walks
      exact Or.inr ⟨finishes, later, walked, (Except.ok.inj result).symm⟩
  · rintro ⟨statement, moved, placed, ending⟩
    refine ⟨(statement, moved), placed, ?_⟩
    rcases ending with ⟨finishes, rfl⟩ | ⟨continues, later, walked, rfl⟩
    · exact if_pos finishes
    · dsimp only
      rw [if_neg continues, walked]
      rfl

/-- A walk stops where its first line cannot be placed. -/
theorem walk_cons_of_place_error {table : OpcodeTable} {policy : Strictness} {cursor : Cursor}
    {line : Nat} {fields : Fields} {cause : AssemblyError}
    (stopped : cursor.place table policy line fields = .error cause)
    (rest : List (Nat × Fields)) :
    walk table policy cursor ((line, fields) :: rest) = .error cause := by
  rw [walk, stopped]
  rfl

/-- A walk that goes on stops where the walk over the other lines does. -/
theorem walk_cons_of_walk_error {table : OpcodeTable} {policy : Strictness}
    {cursor moved : Cursor} {line : Nat} {fields : Fields} {statement : Statement}
    {rest : List (Nat × Fields)} {cause : AssemblyError}
    (placed : cursor.place table policy line fields = .ok (statement, moved))
    (continues : statement.operation ≠ .finish)
    (stopped : walk table policy moved rest = .error cause) :
    walk table policy cursor ((line, fields) :: rest) = .error cause := by
  rw [walk, placed]
  show (if statement.operation = .finish then _ else _) = _
  rw [if_neg continues, stopped]
  rfl

/-- A walk that succeeds goes step by step from its first cursor to its last. -/
theorem walk_traces {table : OpcodeTable} {policy : Strictness} {cursor : Cursor}
    {lines : List (Nat × Fields)} {found : Walk}
    (walks : walk table policy cursor lines = .ok found) :
    Traces cursor found.statements found.cursor found.terminated := by
  induction lines generalizing cursor found with
  | nil =>
    rw [walk] at walks
    cases walks
    exact .exhausted cursor
  | cons entry rest inductionHypothesis =>
    obtain ⟨line, fields⟩ := entry
    obtain ⟨statement, moved, placed, ending⟩ := walk_cons_eq_ok_iff.mp walks
    obtain ⟨effect, -⟩ := Cursor.place_cases placed
    rcases ending with ⟨finishes, rfl⟩ | ⟨continues, later, walked, rfl⟩
    · rcases effect with ⟨closes, rfl⟩ | moves
      · exact .closed closes
      · exact absurd finishes moves.continues
    · rcases effect with ⟨closes, rfl⟩ | moves
      · exact absurd closes.finishes continues
      · exact .step moves (inductionHypothesis walked)

theorem Traces.start_lt {cursor last : Cursor} {statements : List Statement} {terminated : Bool}
    (traces : Traces cursor statements last terminated) (inRange : cursor.start < addressCount) :
    last.start < addressCount := by
  induction traces with
  | exhausted cursor => exact inRange
  | closed closes => exact inRange
  | step moves later inductionHypothesis => exact inductionHypothesis (moves.start_lt inRange)

theorem Traces.counter_le {cursor last : Cursor} {statements : List Statement} {terminated : Bool}
    (traces : Traces cursor statements last terminated)
    (inRange : cursor.counter ≤ addressCount) : last.counter ≤ addressCount := by
  induction traces with
  | exhausted cursor => exact inRange
  | closed closes => exact inRange
  | step moves later inductionHypothesis => exact inductionHypothesis moves.counter_le

theorem Traces.address_le {cursor last : Cursor} {statements : List Statement} {terminated : Bool}
    (traces : Traces cursor statements last terminated)
    (inRange : cursor.counter ≤ addressCount) :
    ∀ statement ∈ statements, statement.address ≤ addressCount := by
  induction traces with
  | exhausted cursor => exact List.forall_mem_nil _
  | closed closes =>
    rw [List.forall_mem_singleton, closes.here]
    exact inRange
  | @step cursor moved last statement rest terminated moves later inductionHypothesis =>
    refine List.forall_mem_cons.mpr ⟨?_, inductionHypothesis moves.counter_le⟩
    have behind := moves.counter_eq
    have within := moves.counter_le
    omega

/-- The statements of a walk are its first lines, with their numbers and fields. -/
theorem walk_lines {table : OpcodeTable} {policy : Strictness} {cursor : Cursor}
    {lines : List (Nat × Fields)} {found : Walk}
    (walks : walk table policy cursor lines = .ok found) :
    (found.statements.map fun statement => (statement.line, statement.toFields)) <+: lines := by
  induction lines generalizing cursor found with
  | nil =>
    rw [walk] at walks
    cases walks
    exact List.prefix_rfl
  | cons entry rest inductionHypothesis =>
    obtain ⟨line, fields⟩ := entry
    obtain ⟨statement, moved, placed, ending⟩ := walk_cons_eq_ok_iff.mp walks
    obtain ⟨-, rfl, rfl⟩ := Cursor.place_cases placed
    rcases ending with ⟨-, rfl⟩ | ⟨-, later, walked, rfl⟩
    · exact List.cons_prefix_cons.mpr ⟨rfl, List.nil_prefix⟩
    · exact List.cons_prefix_cons.mpr ⟨rfl, inductionHypothesis walked⟩

/-- The mnemonics of a walk stand for the operations of its statements. -/
theorem walk_classified {table : OpcodeTable} {policy : Strictness} {cursor : Cursor}
    {lines : List (Nat × Fields)} {found : Walk}
    (walks : walk table policy cursor lines = .ok found) :
    ∀ statement ∈ found.statements,
      Operation.ofMnemonic? table statement.mnemonic = some statement.operation := by
  induction lines generalizing cursor found with
  | nil =>
    rw [walk] at walks
    cases walks
    exact List.forall_mem_nil _
  | cons entry rest inductionHypothesis =>
    obtain ⟨line, fields⟩ := entry
    obtain ⟨statement, moved, placed, ending⟩ := walk_cons_eq_ok_iff.mp walks
    have classified := Cursor.place_classified placed
    rcases ending with ⟨-, rfl⟩ | ⟨-, later, walked, rfl⟩
    · exact List.forall_mem_singleton.mpr classified
    · exact List.forall_mem_cons.mpr ⟨classified, inductionHypothesis walked⟩

/-- Nothing is laid out under an empty opcode table. -/
theorem Layout.not_isEmpty_of_ofLines {table : OpcodeTable} {options : Options}
    {lines : List String} {layout : Layout}
    (laidOut : Layout.ofLines table options lines = .ok layout) : ¬ table.isEmpty = true := by
  intro empty
  rw [Layout.ofLines, if_pos empty] at laidOut
  cases laidOut

/-- A layout is what a walk from the first cursor found. -/
theorem Layout.ofLines_eq_ok {table : OpcodeTable} {options : Options} {lines : List String}
    {layout : Layout} (laidOut : Layout.ofLines table options lines = .ok layout) :
    ∃ found, walk table options.duplicateLabels {} (numberedFields options.fieldStyle lines) =
      .ok found ∧ layout = Layout.ofWalk found := by
  unfold Layout.ofLines at laidOut
  split at laidOut
  · cases laidOut
  · obtain ⟨found, walks, result⟩ := bind_eq_ok_iff.mp laidOut
    exact ⟨found, walks, (Except.ok.inj result).symm⟩

end SicAssembler
