/-
This file lays a program out in machine words. The walk counts in natural
numbers, which have no end. Here the start and the counter are words of 32
bits, the sizes of statements and the sums that are checked are words of 64
bits, and every operation on them wraps around: a size may be a product, a sum
that is in range is cut down to 32 bits again, and the length of the program is
the difference of two words.

None of these operations loses anything, so the layout in words is the layout,
and where the one stops the other does for the same cause. A step needs no more
than that its operand is a text a machine can hold; only the last difference
asks for what the whole walk preserves, that the counter never lies before the
start.
-/

import SicAssembler.Proofs.ConstantGrammar

namespace SicAssembler

/-! ### Sizes -/

/-- Whether the operand of a line, if there is one, is shorter than the longest text that a
machine with addresses of 64 bits can hold. -/
def Fields.Short (fields : Fields) : Prop :=
  ∀ operand ∈ fields.operand?, operand.utf8ByteSize < 2 ^ 63

instance : DecidablePred Fields.Short := fun fields =>
  inferInstanceAs (Decidable (∀ operand ∈ fields.operand?, operand.utf8ByteSize < 2 ^ 63))

/-- A constant is no longer than its operand. -/
theorem ByteConstant.size_le_utf8ByteSize {operand : String} {constant : ByteConstant}
    (read : read? operand = some constant) : constant.size ≤ operand.utf8ByteSize := by
  cases read?_eq_some_iff.mp read with
  | characters nonempty ascii =>
    rw [size, String.utf8ByteSize_append, String.utf8ByteSize_append]
    omega
  | hexadecimal nonempty even each =>
    rw [size, String.utf8ByteSize_append, String.utf8ByteSize_append]
    omega

namespace Statement

theorem number_lt {statement : Statement} {radix : Radix} {field : NumericField} {value : Nat}
    (read : statement.number radix field = .ok value) : value < 2 ^ 32 := by
  obtain ⟨operand, -, below⟩ := number_eq_ok_iff.mp read
  exact (Radix.readBelow?_eq_some_iff.mp below).2

/-- A statement with an operand that a machine can hold has a size of less than 64 bits. -/
theorem size_lt {statement : Statement} {size : Nat} (short : statement.toFields.Short)
    (measured : statement.size = .ok size) : size < 2 ^ 63 := by
  unfold Statement.size at measured
  cases operation : statement.operation <;> simp only [operation] at measured
  case start | finish | word | instruction =>
    cases measured
    decide
  case reserveWords =>
    obtain ⟨count, read, rfl⟩ := map_eq_ok_iff.mp measured
    have small := number_lt read
    rw [wordSize]
    omega
  case reserveBytes =>
    have small := number_lt measured
    omega
  case byte =>
    obtain ⟨constant, read, rfl⟩ := map_eq_ok_iff.mp measured
    obtain ⟨operand, present, value⟩ := constant_eq_ok_iff.mp read
    exact Nat.lt_of_le_of_lt (ByteConstant.size_le_utf8ByteSize value) (short operand present)

/-- The unsigned number in an operand, as a word of 32 bits. -/
def machineNumber (statement : Statement) (radix : Radix) (field : NumericField) :
    Except AssemblyError UInt32 :=
  UInt32.ofNat <$> statement.number radix field

/-- The size of a statement, as a word of 64 bits. -/
def machineSize (statement : Statement) : Except AssemblyError UInt64 :=
  match statement.operation with
  | .start => .ok 0
  | .finish => .ok 0
  | .word => .ok 3
  | .instruction => .ok 3
  | .reserveWords =>
    (fun count => 3 * count.toUInt64) <$> statement.machineNumber .decimal .reservedWords
  | .reserveBytes => UInt32.toUInt64 <$> statement.machineNumber .decimal .reservedBytes
  | .byte => (fun constant => UInt64.ofNat constant.size) <$> statement.constant

theorem number_eq_machineNumber (statement : Statement) (radix : Radix) (field : NumericField) :
    statement.number radix field = UInt32.toNat <$> statement.machineNumber radix field := by
  unfold machineNumber
  cases read : statement.number radix field with
  | error cause => rfl
  | ok value => exact congrArg Except.ok (UInt32.toNat_ofNat_of_lt' (number_lt read)).symm

theorem toNat_three_mul_toUInt64 (count : UInt32) :
    (3 * count.toUInt64).toNat = 3 * count.toNat := by
  have small := count.toNat_lt
  rw [UInt64.toNat_mul, UInt32.toNat_toUInt64]
  show 3 * count.toNat % 2 ^ 64 = 3 * count.toNat
  exact Nat.mod_eq_of_lt (by omega)

/-- A size does not wrap around. -/
theorem size_eq_machineSize {statement : Statement} (short : statement.toFields.Short) :
    statement.size = UInt64.toNat <$> statement.machineSize := by
  unfold Statement.size machineSize
  cases operation : statement.operation <;> simp only
  case start | finish | word | instruction => rfl
  case reserveWords =>
    rw [number_eq_machineNumber]
    cases statement.machineNumber .decimal .reservedWords with
    | error cause => rfl
    | ok count => exact congrArg Except.ok (toNat_three_mul_toUInt64 count).symm
  case reserveBytes =>
    rw [number_eq_machineNumber]
    cases statement.machineNumber .decimal .reservedBytes with
    | error cause => rfl
    | ok count => exact congrArg Except.ok count.toNat_toUInt64.symm
  case byte =>
    cases read : statement.constant with
    | error cause => rfl
    | ok constant =>
      have measured : statement.size = .ok constant.size := by
        simp only [Statement.size, operation, read]
        rfl
      have small : constant.size < UInt64.size :=
        Nat.lt_trans (size_lt short measured) (by decide)
      exact congrArg Except.ok (UInt64.toNat_ofNat_of_lt' small).symm

theorem machineSize_lt {statement : Statement} {size : UInt64}
    (short : statement.toFields.Short) (measured : statement.machineSize = .ok size) :
    size.toNat < 2 ^ 63 := by
  refine size_lt short ?_
  rw [size_eq_machineSize short, measured]
  rfl

end Statement

/-! ### The cursor -/

/-- The last address. -/
def lastAddress : UInt32 := 0xFFFFFF

/-- Where a walk in machine words stands. -/
structure MachineCursor where
  start : UInt32 := 0
  counter : UInt32 := 0
  symbols : SymbolTable := .empty

namespace MachineCursor

/-- The cursor in natural numbers. -/
def toCursor (cursor : MachineCursor) : Cursor where
  start := cursor.start.toNat
  counter := cursor.counter.toNat
  symbols := cursor.symbols

/-- Define the label of a statement, if it has one, at the current address. -/
def defineLabel (cursor : MachineCursor) (policy : Strictness) (statement : Statement) :
    Except AssemblyError MachineCursor := do
  let labelled ← cursor.toCursor.defineLabel policy statement
  return { cursor with symbols := labelled.symbols }

/-- Move the counter on by a number of bytes. The sum is checked in 64 bits and kept in 32. -/
def moveBy (cursor : MachineCursor) (size : UInt64) (line : Nat) :
    Except AssemblyError MachineCursor :=
  let next := cursor.counter.toUInt64 + size
  if lastAddress.toUInt64 + 1 < next then .error (.addressOutOfRange next.toNat line)
  else .ok { cursor with counter := next.toUInt32 }

/-- Move the cursor to the address in the operand of a start directive. -/
def moveTo (cursor : MachineCursor) (statement : Statement) :
    Except AssemblyError MachineCursor := do
  let start ← statement.machineNumber .hexadecimal .startAddress
  if lastAddress < start then .error (.addressOutOfRange start.toNat statement.line)
  else .ok { cursor with start := start, counter := start }

/-- Let a statement take effect. -/
def settle (cursor : MachineCursor) (policy : Strictness) (statement : Statement) :
    Except AssemblyError (Statement × MachineCursor) :=
  match statement.operation with
  | .start => do
    let moved ← cursor.moveTo statement
    return ({ statement with address := moved.start.toNat }, moved)
  | .finish =>
    match statement.label? with
    | some _ => .error (.invalidMnemonic statement.mnemonic statement.line)
    | none => .ok (statement, cursor)
  | _ => do
    let labelled ← cursor.defineLabel policy statement
    let size ← statement.machineSize
    let moved ← labelled.moveBy size statement.line
    return (statement, moved)

/-- Place one line. -/
def place (cursor : MachineCursor) (table : OpcodeTable) (policy : Strictness) (line : Nat)
    (fields : Fields) : Except AssemblyError (Statement × MachineCursor) := do
  let statement ← cursor.toCursor.statement table line fields
  cursor.settle policy statement

/-! ### One step -/

theorem defineLabel_toCursor (cursor : MachineCursor) (policy : Strictness)
    (statement : Statement) :
    cursor.toCursor.defineLabel policy statement =
      toCursor <$> cursor.defineLabel policy statement := by
  unfold MachineCursor.defineLabel
  cases defined : cursor.toCursor.defineLabel policy statement with
  | error cause => rfl
  | ok labelled =>
    rw [Cursor.defineLabel_eq_ok defined]
    rfl

/-- The sum does not wrap around, and if it is in range, neither half of it is lost. -/
theorem moveBy_toCursor (cursor : MachineCursor) {size : UInt64} (small : size.toNat < 2 ^ 63)
    (line : Nat) :
    cursor.toCursor.moveBy size.toNat line = toCursor <$> cursor.moveBy size line := by
  have sum : (cursor.counter.toUInt64 + size).toNat = cursor.counter.toNat + size.toNat := by
    have bound := cursor.counter.toNat_lt
    rw [UInt64.toNat_add, UInt32.toNat_toUInt64]
    exact Nat.mod_eq_of_lt (by omega)
  have limit : lastAddress.toUInt64 + 1 < cursor.counter.toUInt64 + size ↔
      addressCount < cursor.counter.toNat + size.toNat := by
    rw [UInt64.lt_iff_toNat_lt, sum]
    rfl
  unfold Cursor.moveBy MachineCursor.moveBy
  by_cases tooFar : addressCount < cursor.counter.toNat + size.toNat
  · simp only [toCursor, tooFar, limit.mpr tooFar, if_true, sum]
    rfl
  · have kept : (cursor.counter.toUInt64 + size).toUInt32.toNat =
        cursor.counter.toNat + size.toNat := by
      rw [UInt64.toNat_toUInt32, sum]
      refine Nat.mod_eq_of_lt (Nat.lt_of_le_of_lt (Nat.le_of_not_lt tooFar) ?_)
      decide
    simp only [toCursor, tooFar, mt limit.mp tooFar, if_false, Except.map_ok, kept]

theorem moveTo_toCursor (cursor : MachineCursor) (statement : Statement) :
    cursor.toCursor.moveTo statement = toCursor <$> cursor.moveTo statement := by
  unfold Cursor.moveTo MachineCursor.moveTo
  rw [Statement.number_eq_machineNumber]
  cases statement.machineNumber .hexadecimal .startAddress with
  | error cause => rfl
  | ok start =>
    have limit : lastAddress < start ↔ addressCount ≤ start.toNat := UInt32.lt_iff_toNat_lt
    show (if addressCount ≤ start.toNat then _ else _) =
      toCursor <$> (if lastAddress < start then _ else _)
    by_cases tooFar : addressCount ≤ start.toNat
    · rw [if_pos tooFar, if_pos (limit.mpr tooFar)]
      rfl
    · rw [if_neg tooFar, if_neg (mt limit.mp tooFar)]
      rfl

theorem settle_toCursor (cursor : MachineCursor) (policy : Strictness) {statement : Statement}
    (short : statement.toFields.Short) :
    cursor.toCursor.settle policy statement =
      Prod.map id toCursor <$> cursor.settle policy statement := by
  unfold Cursor.settle MachineCursor.settle
  cases statement.operation <;> simp only
  case start =>
    rw [moveTo_toCursor]
    cases cursor.moveTo statement <;> rfl
  case finish => cases statement.label? <;> rfl
  -- The five others go through the same three steps, and only the last of them adds.
  all_goals
    rw [defineLabel_toCursor, Statement.size_eq_machineSize short]
    cases cursor.defineLabel policy statement with
    | error cause => rfl
    | ok labelled =>
      cases measured : statement.machineSize with
      | error cause => rfl
      | ok size =>
        have moved := labelled.moveBy_toCursor (Statement.machineSize_lt short measured)
          statement.line
        show (labelled.toCursor.moveBy size.toNat statement.line >>= _) =
          Prod.map id toCursor <$> (labelled.moveBy size statement.line >>= _)
        rw [moved]
        cases labelled.moveBy size statement.line <;> rfl

/-- A line is placed in machine words as it is in natural numbers. -/
theorem place_toCursor (cursor : MachineCursor) (table : OpcodeTable) (policy : Strictness)
    (line : Nat) {fields : Fields} (short : fields.Short) :
    cursor.toCursor.place table policy line fields =
      Prod.map id toCursor <$> cursor.place table policy line fields := by
  unfold Cursor.place MachineCursor.place Cursor.statement
  cases Operation.ofMnemonic? table fields.mnemonic with
  | none => rfl
  | some operation => exact cursor.settle_toCursor policy short

end MachineCursor

/-! ### The walk -/

/-- What a walk in machine words leaves behind. -/
structure MachineWalk where
  statements : List Statement
  cursor : MachineCursor
  terminated : Bool

/-- What the walk leaves behind, in natural numbers. -/
def MachineWalk.toWalk (found : MachineWalk) : Walk where
  statements := found.statements
  cursor := found.cursor.toCursor
  terminated := found.terminated

/-- Walk over lines up to the end directive, in machine words. -/
def machineWalk (table : OpcodeTable) (policy : Strictness) :
    MachineCursor → List (Nat × Fields) → Except AssemblyError MachineWalk
  | cursor, [] => .ok { statements := [], cursor := cursor, terminated := false }
  | cursor, (line, fields) :: rest => do
    let (statement, moved) ← cursor.place table policy line fields
    if statement.operation = .finish then
      return { statements := [statement], cursor := moved, terminated := true }
    else
      let later ← machineWalk table policy moved rest
      return { later with statements := statement :: later.statements }

/-- A walk in machine words takes the same steps as one in natural numbers. -/
theorem walk_toCursor (table : OpcodeTable) (policy : Strictness) (cursor : MachineCursor)
    {lines : List (Nat × Fields)} (short : ∀ entry ∈ lines, entry.2.Short) :
    walk table policy cursor.toCursor lines =
      MachineWalk.toWalk <$> machineWalk table policy cursor lines := by
  induction lines generalizing cursor with
  | nil => rfl
  | cons entry rest inductionHypothesis =>
    obtain ⟨line, fields⟩ := entry
    obtain ⟨first, later⟩ := List.forall_mem_cons.mp short
    rw [walk, machineWalk, cursor.place_toCursor table policy line first]
    cases cursor.place table policy line fields with
    | error cause => rfl
    | ok placed =>
      obtain ⟨statement, moved⟩ := placed
      show (if statement.operation = .finish then _ else _) =
        MachineWalk.toWalk <$> (if statement.operation = .finish then _ else _)
      by_cases finishes : statement.operation = .finish
      · rw [if_pos finishes, if_pos finishes]
        rfl
      · rw [if_neg finishes, if_neg finishes]
        show (walk table policy moved.toCursor rest >>= _) = _
        rw [inductionHypothesis moved later]
        cases machineWalk table policy moved rest <;> rfl

/-! ### Layouts -/

/-- The layout that a finished walk in machine words amounts to. The length is the difference of
two words. -/
def Layout.ofMachineWalk (found : MachineWalk) : Layout where
  statements := found.statements
  symbols := found.cursor.symbols
  program :=
    { name := programName
      start := found.cursor.start.toNat
      length := (found.cursor.counter - found.cursor.start).toNat
      terminated := found.terminated }

/-- Lay out the program in the given lines, in machine words. -/
def Layout.ofLinesInWords (table : OpcodeTable) (options : Options) (lines : List String) :
    Except AssemblyError Layout :=
  if table.isEmpty then .error .emptyOpcodeTable
  else do
    let found ← machineWalk table options.duplicateLabels {}
      (numberedFields options.fieldStyle lines)
    return ofMachineWalk found

/-- The length does not wrap around if the counter does not lie before the start. -/
theorem Layout.ofMachineWalk_eq {found : MachineWalk}
    (ordered : found.cursor.start.toNat ≤ found.cursor.counter.toNat) :
    Layout.ofMachineWalk found = Layout.ofWalk found.toWalk := by
  have difference := UInt32.toNat_sub_of_le found.cursor.counter found.cursor.start
    (UInt32.le_iff_toNat_le.mpr ordered)
  simp only [ofMachineWalk, ofWalk, MachineWalk.toWalk, MachineCursor.toCursor, difference]

/-- The layout in machine words is the layout, and where there is none, the cause is the same. -/
theorem Layout.ofLines_eq_ofLinesInWords (table : OpcodeTable) (options : Options)
    {lines : List String}
    (short : ∀ entry ∈ numberedFields options.fieldStyle lines, entry.2.Short) :
    Layout.ofLines table options lines = Layout.ofLinesInWords table options lines := by
  have same : walk table options.duplicateLabels {} (numberedFields options.fieldStyle lines) =
      MachineWalk.toWalk <$> machineWalk table options.duplicateLabels {}
        (numberedFields options.fieldStyle lines) :=
    walk_toCursor table options.duplicateLabels {} short
  unfold Layout.ofLines Layout.ofLinesInWords
  by_cases empty : table.isEmpty = true
  · rw [if_pos empty, if_pos empty]
  · rw [if_neg empty, if_neg empty]
    cases result : machineWalk table options.duplicateLabels {}
        (numberedFields options.fieldStyle lines) with
    | error cause =>
      rw [same, result]
      rfl
    | ok found =>
      rw [result] at same
      have ordered : found.cursor.start.toNat ≤ found.cursor.counter.toNat :=
        (walk_traces same).start_le_counter (Nat.le_refl 0)
      rw [same]
      exact congrArg Except.ok (ofMachineWalk_eq ordered).symm

end SicAssembler
