/-
This file says when the operand of a statement can be read, and what is then
read from it. A step of a run that may stop succeeds exactly if each of its
parts does, so every reading is put as an equivalence: the operand is there and
has the form asked for. From these follows the number of bytes that a statement
takes up, as its operation and its operand tell.
-/

import SicAssembler.Proofs.ByteConstant
import SicAssembler.Statement

namespace SicAssembler

/-! ### Runs that may stop -/

/-- A run of two steps succeeds if the first does and the second does on its result. -/
theorem bind_eq_ok_iff {Cause First Second : Type} {step : Except Cause First}
    {next : First → Except Cause Second} {result : Second} :
    (step >>= next) = .ok result ↔ ∃ value, step = .ok value ∧ next value = .ok result := by
  constructor
  · intro run
    cases step with
    | error cause => cases run
    | ok value => exact ⟨value, rfl, run⟩
  · rintro ⟨value, rfl, run⟩
    exact run

theorem map_eq_ok_iff {Cause First Second : Type} {step : Except Cause First}
    {change : First → Second} {result : Second} :
    change <$> step = .ok result ↔ ∃ value, step = .ok value ∧ change value = result := by
  constructor
  · intro run
    cases step with
    | error cause => cases run
    | ok value => exact ⟨value, rfl, Except.ok.inj run⟩
  · rintro ⟨value, rfl, rfl⟩
    rfl

/-- A run over a list that succeeds does so at its first item and over the others. -/
theorem mapM_cons_eq_ok {Cause Item Value : Type} {step : Item → Except Cause Value} {item : Item}
    {rest : List Item} {values : List Value} (run : (item :: rest).mapM step = .ok values) :
    ∃ value later, step item = .ok value ∧ rest.mapM step = .ok later ∧
      values = value :: later := by
  rw [List.mapM_cons] at run
  obtain ⟨value, first, run⟩ := bind_eq_ok_iff.mp run
  obtain ⟨later, inRest, result⟩ := bind_eq_ok_iff.mp run
  exact ⟨value, later, first, inRest, (Except.ok.inj result).symm⟩

/-- The outcome of a run with its cause or its result changed. -/
def mapRun {Cause OtherCause First Second : Type} (onCause : Cause → OtherCause)
    (onResult : First → Second) : Except Cause First → Except OtherCause Second
  | .ok value => .ok (onResult value)
  | .error cause => .error (onCause cause)

section Changes

variable {Cause OtherCause : Type} {onCause : Cause → OtherCause}

/-- A run of two steps is changed alike if both steps are. -/
theorem mapRun_bind {First Second Third Fourth : Type} {onFirst : First → Second}
    {onResult : Third → Fourth} {step : Except Cause First} {other : Except OtherCause Second}
    {next : First → Except Cause Third} {otherNext : Second → Except OtherCause Fourth}
    (first : other = mapRun onCause onFirst step)
    (second : ∀ value, otherNext (onFirst value) = mapRun onCause onResult (next value)) :
    (other >>= otherNext) = mapRun onCause onResult (step >>= next) := by
  rw [first]
  cases step with
  | error cause => rfl
  | ok value => exact second value

/-- A run over a list is changed alike if each of its steps is. -/
theorem mapRun_mapM {Item Other Value : Type} {change : Item → Other}
    {step : Item → Except Cause Value} {otherStep : Other → Except OtherCause Value}
    (commutes : ∀ item, otherStep (change item) = mapRun onCause id (step item))
    (items : List Item) :
    (items.map change).mapM otherStep = mapRun onCause id (items.mapM step) := by
  induction items with
  | nil => rfl
  | cons item rest inductionHypothesis =>
    rw [List.map_cons, List.mapM_cons, List.mapM_cons]
    refine mapRun_bind (commutes item) fun value => ?_
    exact mapRun_bind inductionHypothesis fun later => rfl

end Changes

/-- A run whose result passes a check has a result, and it has what follows from the check. -/
theorem exists_ok_and {Cause Value : Type} {run : Except Cause Value} (accepts : Value → Bool)
    {property : Value → Prop} (checked : run.toOption.any accepts = true)
    (holds : ∀ value, run = .ok value → accepts value = true → property value) :
    ∃ value, run = .ok value ∧ property value := by
  cases run with
  | error cause => cases checked
  | ok value => exact ⟨value, rfl, holds value rfl checked⟩

namespace Statement

/-! ### Reading operands -/

theorem operandFor_eq_ok_iff {statement : Statement} {field : NumericField} {operand : String} :
    statement.operandFor field = .ok operand ↔ statement.operand? = some operand := by
  unfold operandFor
  cases statement.operand? <;> simp

/-- A number is read if the operand is a numeral below the limit. -/
theorem number_eq_ok_iff {statement : Statement} {radix : Radix} {field : NumericField}
    {value : Nat} :
    statement.number radix field = .ok value ↔
      ∃ operand, statement.operand? = some operand ∧
        radix.readBelow? wordValues operand.toList = some value := by
  rw [number, bind_eq_ok_iff]
  refine exists_congr fun operand => and_congr operandFor_eq_ok_iff ?_
  cases radix.readBelow? wordValues operand.toList <;> simp

/-- A constant is read if the operand is one. An absent operand is read as a dash, which is no
constant. -/
theorem constant_eq_ok_iff {statement : Statement} {constant : ByteConstant} :
    statement.constant = .ok constant ↔
      ∃ operand, statement.operand? = some operand ∧
        ByteConstant.read? operand = some constant := by
  unfold Statement.constant
  cases statement.operand? with
  | none => simp [show ByteConstant.read? absentText = none by decide]
  | some operand => cases read : ByteConstant.read? operand <;> simp [read]

/-- A word is read if the operand is a signed numeral that fits into 24 bits. -/
theorem word_eq_ok_iff {statement : Statement} {word : UInt32} :
    statement.word = .ok word ↔
      ∃ operand, statement.operand? = some operand ∧
        ∃ value, Radix.decimal.readSigned? operand.toList = some value ∧
          fitsWord value = true ∧ UInt32.ofNat (value % 0x1000000).toNat = word := by
  rw [Statement.word, bind_eq_ok_iff]
  refine exists_congr fun operand => and_congr operandFor_eq_ok_iff ?_
  cases read : Radix.decimal.readSigned? operand.toList with
  | none => simp
  | some value => cases fits : fitsWord value <;> simp [Option.filter, fits]

/-! ### Extents -/

/-- The count in the operand of a reservation; zero if it has none. -/
def reservedCount (statement : Statement) : Nat :=
  (statement.operand?.bind fun operand =>
    Radix.decimal.readBelow? wordValues operand.toList).getD 0

/-- The bytes of the constant in the operand; none if it holds no constant. -/
def constantBytes (statement : Statement) : List UInt8 :=
  ((statement.operand?.bind ByteConstant.read?).map ByteConstant.bytes).getD []

/-- The number of bytes that a statement takes up. -/
def extent (statement : Statement) : Nat :=
  match statement.operation with
  | .start => 0
  | .finish => 0
  | .word => 3
  | .instruction => 3
  | .reserveWords => 3 * statement.reservedCount
  | .reserveBytes => statement.reservedCount
  | .byte => statement.constantBytes.length

theorem number_eq_reservedCount {statement : Statement} {field : NumericField} {count : Nat}
    (read : statement.number .decimal field = .ok count) : count = statement.reservedCount := by
  obtain ⟨operand, present, value⟩ := number_eq_ok_iff.mp read
  rw [reservedCount, present, Option.bind_some, value, Option.getD_some]

theorem bytes_eq_constantBytes {statement : Statement} {constant : ByteConstant}
    (read : statement.constant = .ok constant) : constant.bytes = statement.constantBytes := by
  obtain ⟨operand, present, value⟩ := constant_eq_ok_iff.mp read
  rw [constantBytes, present, Option.bind_some, value, Option.map_some, Option.getD_some]

/-- The size of a statement, where it can be told, is its extent. -/
theorem size_eq_extent {statement : Statement} {size : Nat}
    (measured : statement.size = .ok size) : size = statement.extent := by
  unfold Statement.size at measured
  unfold extent
  cases operation : statement.operation <;> simp only [operation] at measured ⊢
  case start | finish | word | instruction => exact (Except.ok.inj measured).symm
  case reserveWords =>
    obtain ⟨count, read, rfl⟩ := map_eq_ok_iff.mp measured
    rw [number_eq_reservedCount read, wordSize]
  case reserveBytes => exact number_eq_reservedCount measured
  case byte =>
    obtain ⟨constant, read, rfl⟩ := map_eq_ok_iff.mp measured
    obtain ⟨operand, present, value⟩ := constant_eq_ok_iff.mp read
    rw [ByteConstant.size_eq_length_bytes value, bytes_eq_constantBytes read]

end Statement

end SicAssembler
