/-
This file proves that the arithmetic on addresses is exact. The start and the
counter of a walk stay in range from line to line, whatever start directives
come in between; hence the sizes, the sums and the length fit into the machine
words they are kept in, and a line is refused for its address exactly if it asks
for one that is too far up.

Text records are not checked again. A constant that no record can hold is cut,
and each cut adds to an address without a look at the result; that nothing wraps
around there follows from the range of the walk, since a fragment is as long as
the extent of its statement.
-/

import SicAssembler.Proofs.Faults
import SicAssembler.Proofs.MachineWords
import SicAssembler.Proofs.MemoryImage

namespace SicAssembler

/-! ### The range of the cursor -/

namespace Cursor

/-- Whether the start is an address, and the counter is one that does not lie before it or is the
first number behind the last address. -/
structure Within (cursor : Cursor) : Prop where
  start_le_counter : cursor.start ≤ cursor.counter
  counter_le : cursor.counter ≤ 0x1000000
  start_le : cursor.start ≤ 0xFFFFFF

theorem within_first : ({} : Cursor).Within := by
  constructor <;> decide

theorem Moves.within {cursor moved : Cursor} {statement : Statement}
    (moves : cursor.Moves statement moved) (within : cursor.Within) : moved.Within where
  start_le_counter := moves.start_le_counter within.start_le_counter
  counter_le := moves.counter_le
  start_le := Nat.le_of_lt_succ (moves.start_lt (Nat.lt_succ_of_le within.start_le))

/-- A line that is placed leaves the cursor in range. -/
theorem Within.place {cursor moved : Cursor} {table : OpcodeTable} {policy : Strictness}
    {line : Nat} {fields : Fields} {statement : Statement} (within : cursor.Within)
    (placed : cursor.place table policy line fields = .ok (statement, moved)) : moved.Within := by
  obtain ⟨⟨-, rfl⟩ | moves, -⟩ := place_cases placed
  · exact within
  · exact moves.within within

end Cursor

theorem Traces.within {cursor last : Cursor} {statements : List Statement} {terminated : Bool}
    (traces : Traces cursor statements last terminated) (within : cursor.Within) :
    last.Within where
  start_le_counter := traces.start_le_counter within.start_le_counter
  counter_le := traces.counter_le within.counter_le
  start_le := Nat.le_of_lt_succ (traces.start_lt (Nat.lt_succ_of_le within.start_le))

/-- The lines that a layout comes to, each with its number, its fields and the cursor at that
point. The lines before it are walked over, and none of them closes the program. -/
inductive Layout.Meets (table : OpcodeTable) (options : Options) (lines : List String) :
    Cursor → Nat → Fields → Prop where
  | intro {before after : List String} {line : String} {fields : Fields} {found : Walk}
      (parts : lines = before ++ line :: after)
      (walks : walk table options.duplicateLabels {} (numberedFields options.fieldStyle before) =
        .ok found)
      (unclosed : found.terminated = false)
      (divided : Fields.ofLine? options.fieldStyle line = some fields) :
      Meets table options lines found.cursor (before.length + 1) fields

theorem Layout.Meets.within {table : OpcodeTable} {options : Options} {lines : List String}
    {cursor : Cursor} {number : Nat} {fields : Fields}
    (meets : Layout.Meets table options lines cursor number fields) : cursor.Within := by
  cases meets with
  | intro parts walks unclosed divided => exact (walk_traces walks).within Cursor.within_first

/-! ### The check of the range -/

namespace Statement

theorem number_ne_outOfRange (statement : Statement) (radix : Radix) (field : NumericField)
    (address line : Nat) :
    statement.number radix field ≠ .error (.addressOutOfRange address line) := by
  intro stopped
  rcases bind_eq_error_iff.mp stopped with absent | ⟨operand, -, unread⟩
  · unfold operandFor at absent
    split at absent <;> cases absent
  · split at unread <;> cases unread

theorem constant_ne_outOfRange (statement : Statement) (address line : Nat) :
    statement.constant ≠ .error (.addressOutOfRange address line) := by
  intro stopped
  unfold Statement.constant at stopped
  dsimp only at stopped
  split at stopped <;> cases stopped

/-- No statement is refused for its address when it is measured. -/
theorem size_ne_outOfRange (statement : Statement) (address line : Nat) :
    statement.size ≠ .error (.addressOutOfRange address line) := by
  intro stopped
  unfold Statement.size at stopped
  cases operation : statement.operation <;> simp only [operation] at stopped
  case start | finish | word | instruction => cases stopped
  case reserveWords =>
    exact statement.number_ne_outOfRange _ _ _ _ (map_eq_error_iff.mp stopped)
  case reserveBytes => exact statement.number_ne_outOfRange _ _ _ _ stopped
  case byte => exact statement.constant_ne_outOfRange _ _ (map_eq_error_iff.mp stopped)

end Statement

namespace Cursor

/-- Whether a statement passes every check that comes before that of its address. -/
inductive Admits (cursor : Cursor) (policy : Strictness) (statement : Statement) : Prop where
  /-- A start directive names a number. -/
  | start {value : Nat} (begins : statement.operation = .start)
      (named : statement.number .hexadecimal .startAddress = .ok value)
  /-- An end directive has no label. -/
  | finish (finishes : statement.operation = .finish) (unlabelled : statement.label? = none)
  /-- Any other statement may define its label, and its operand gives it a size. -/
  | advance {labelled : Cursor} {size : Nat} (ordinary : statement.operation ≠ .start)
      (continues : statement.operation ≠ .finish)
      (defined : cursor.defineLabel policy statement = .ok labelled)
      (measured : statement.size = .ok size)

/-- Whether a statement asks for an address that is too far up: a start directive by the number it
names, any statement by the size it has. -/
def TooFar (cursor : Cursor) (statement : Statement) : Prop :=
  (statement.operation = .start ∧
    ∃ value, statement.number .hexadecimal .startAddress = .ok value ∧ 0xFFFFFF < value) ∨
  ∃ size, statement.size = .ok size ∧ 0x1000000 < cursor.counter + size

theorem defineLabel_ne_outOfRange (cursor : Cursor) (policy : Strictness) (statement : Statement)
    (address line : Nat) :
    cursor.defineLabel policy statement ≠ .error (.addressOutOfRange address line) := by
  intro stopped
  unfold defineLabel at stopped
  split at stopped
  · cases stopped
  · split at stopped
    · split at stopped <;> cases stopped
    · cases stopped

/-- A start directive is refused for its address if it names a number that is none. -/
theorem settle_start_outOfRange_iff {cursor : Cursor} {policy : Strictness}
    {statement : Statement} {address line : Nat} (begins : statement.operation = .start) :
    cursor.settle policy statement = .error (.addressOutOfRange address line) ↔
      statement.number .hexadecimal .startAddress = .ok address ∧ 0xFFFFFF < address ∧
        line = statement.line := by
  simp only [settle, begins]
  rw [bind_eq_error_iff, moveTo, bind_eq_error_iff]
  constructor
  · rintro ((unread | ⟨value, named, refused⟩) | ⟨moved, -, impossible⟩)
    · exact absurd unread (statement.number_ne_outOfRange _ _ _ _)
    · split at refused
      · next tooFar =>
        cases refused
        exact ⟨named, tooFar, rfl⟩
      · cases refused
    · cases impossible
  · rintro ⟨named, tooFar, rfl⟩
    exact Or.inl (Or.inr ⟨address, named, if_pos tooFar⟩)

theorem moveBy_eq_error_iff {cursor : Cursor} {size line : Nat} {cause : AssemblyError} :
    cursor.moveBy size line = .error cause ↔
      0x1000000 < cursor.counter + size ∧
        cause = .addressOutOfRange (cursor.counter + size) line := by
  show (if 0x1000000 < cursor.counter + size then _ else _) = _ ↔ _
  by_cases tooFar : 0x1000000 < cursor.counter + size
  · simp [tooFar, eq_comm]
  · simp [tooFar]

/-- Any other statement is refused for its address if nothing else is wrong with it and it reaches
too far. -/
theorem settle_ordinary_outOfRange_iff {cursor : Cursor} {policy : Strictness}
    {statement : Statement} {address line : Nat} (ordinary : statement.operation ≠ .start)
    (continues : statement.operation ≠ .finish) :
    cursor.settle policy statement = .error (.addressOutOfRange address line) ↔
      ∃ labelled size, cursor.defineLabel policy statement = .ok labelled ∧
        statement.size = .ok size ∧ 0x1000000 < cursor.counter + size ∧
        address = cursor.counter + size ∧ line = statement.line := by
  have sameCounter {labelled : Cursor}
      (defined : cursor.defineLabel policy statement = .ok labelled) :
      labelled.counter = cursor.counter := by
    rw [defineLabel_eq_ok defined]
  rw [settle_of_ordinary ordinary continues, bind_eq_error_iff]
  constructor
  · rintro (undefined | ⟨labelled, defined, rest⟩)
    · exact absurd undefined (cursor.defineLabel_ne_outOfRange _ _ _ _)
    · rcases bind_eq_error_iff.mp rest with unmeasured | ⟨size, measured, rest⟩
      · exact absurd unmeasured (statement.size_ne_outOfRange _ _)
      · rcases bind_eq_error_iff.mp rest with refused | ⟨moved, -, impossible⟩
        · obtain ⟨tooFar, cause⟩ := moveBy_eq_error_iff.mp refused
          cases cause
          rw [sameCounter defined] at tooFar ⊢
          exact ⟨labelled, size, defined, measured, tooFar, rfl, rfl⟩
        · cases impossible
  · rintro ⟨labelled, size, defined, measured, tooFar, rfl, rfl⟩
    rw [← sameCounter defined] at tooFar ⊢
    refine Or.inr ⟨labelled, defined, bind_eq_error_iff.mpr (Or.inr ⟨size, measured, ?_⟩)⟩
    exact bind_eq_error_iff.mpr (Or.inl (moveBy_eq_error_iff.mpr ⟨tooFar, rfl⟩))

/-- A start or an end directive takes up nothing, so its size leaves the counter in range. -/
theorem Within.not_lt_of_empty {cursor : Cursor} (within : cursor.Within) {statement : Statement}
    (empty : statement.size = .ok 0) :
    ¬ ∃ size, statement.size = .ok size ∧ 0x1000000 < cursor.counter + size := by
  rintro ⟨size, measured, tooFar⟩
  cases measured.symm.trans empty
  exact Nat.not_lt_of_le within.counter_le tooFar

/-- A statement is refused for its address exactly if it passes every other check and asks for an
address that is too far up. -/
theorem Within.settle_outOfRange_iff {cursor : Cursor} (within : cursor.Within)
    {policy : Strictness} {statement : Statement} :
    (∃ address line, cursor.settle policy statement =
        .error (.addressOutOfRange address line)) ↔
      cursor.Admits policy statement ∧ cursor.TooFar statement := by
  by_cases begins : statement.operation = .start
  · have empty : statement.size = .ok 0 := by simp only [Statement.size, begins]
    simp only [settle_start_outOfRange_iff begins]
    constructor
    · rintro ⟨address, line, named, tooFar, -⟩
      exact ⟨.start begins named, Or.inl ⟨begins, address, named, tooFar⟩⟩
    · rintro ⟨-, ⟨-, value, named, tooFar⟩ | grows⟩
      · exact ⟨value, statement.line, named, tooFar, rfl⟩
      · exact absurd grows (within.not_lt_of_empty empty)
  by_cases finishes : statement.operation = .finish
  · have empty : statement.size = .ok 0 := by simp only [Statement.size, finishes]
    constructor
    · rintro ⟨address, line, refused⟩
      rw [settle_of_finish finishes] at refused
      split at refused <;> cases refused
    · rintro ⟨-, ⟨starts, -⟩ | grows⟩
      · exact absurd starts begins
      · exact absurd grows (within.not_lt_of_empty empty)
  · simp only [settle_ordinary_outOfRange_iff begins finishes]
    constructor
    · rintro ⟨address, line, labelled, size, defined, measured, tooFar, -⟩
      exact ⟨.advance begins finishes defined measured, Or.inr ⟨size, measured, tooFar⟩⟩
    · rintro ⟨admits, ⟨starts, -⟩ | ⟨size, measured, tooFar⟩⟩
      · exact absurd starts begins
      · cases admits with
        | start starts _ => exact absurd starts begins
        | finish closes _ => exact absurd closes finishes
        | @advance labelled _ _ _ defined _ =>
          exact ⟨_, _, labelled, size, defined, measured, tooFar, rfl, rfl⟩

end Cursor

/-! ### Constants that are cut -/

/-- Whether a piece lies as far behind an address as the full records before it reach, and begins
within the given length. -/
def Emission.FollowsRecords (piece : Emission) (address length index : Nat) : Prop :=
  (∃ content, piece = .fragment (address + recordCapacity * index) content) ∧
    recordCapacity * index < length

/-- A constant that is not cut is its only piece. -/
theorem Emission.followsRecords_of_single {address index : Nat} {data : List UInt8}
    {piece : Emission} (filled : 0 < data.length)
    (found : [Emission.fragment address (.bytes data)][index]? = some piece) :
    piece.FollowsRecords address data.length index := by
  cases index with
  | zero =>
    cases found
    exact ⟨⟨.bytes data, rfl⟩, filled⟩
  | succ index => cases found

/-- Each piece of a constant lies behind full records, within the constant. -/
theorem followsRecords_of_getElem?_cutBytes {address bound index : Nat} {data : List UInt8}
    {piece : Emission} (filled : 0 < data.length)
    (inRange : address + data.length < addressWrap)
    (found : (cutBytes address bound data)[index]? = some piece) :
    piece.FollowsRecords address data.length index := by
  induction bound generalizing address data index with
  | zero => exact Emission.followsRecords_of_single filled found
  | succ bound inductionHypothesis =>
    by_cases short : data.length ≤ recordCapacity
    · rw [cutBytes, if_pos short] at found
      exact Emission.followsRecords_of_single filled found
    · rw [cutBytes_of_long bound short inRange] at found
      cases index with
      | zero =>
        cases found
        exact ⟨⟨_, rfl⟩, filled⟩
      | succ index =>
        have remaining : (data.drop recordCapacity).length = data.length - recordCapacity :=
          List.length_drop
        obtain ⟨⟨content, rfl⟩, inside⟩ := inductionHypothesis (by omega) (by omega) found
        have further : recordCapacity * (index + 1) =
            recordCapacity + recordCapacity * index := by
          rw [Nat.mul_succ, Nat.add_comm]
        refine ⟨⟨content, ?_⟩, by omega⟩
        rw [further, ← Nat.add_assoc]

/-! ### Bytes -/

/-- A statement that takes up bytes has all of them at addresses that there are. -/
theorem Traces.address_add_extent_le {cursor last : Cursor} {statements : List Statement}
    {terminated : Bool} (traces : Traces cursor statements last terminated) :
    ∀ statement ∈ statements, 0 < statement.extent →
      statement.address + statement.extent ≤ addressCount := by
  refine traces.forall_mem (fun _ statement closes filled => ?_) fun _ statement _ moves _ => ?_
  · simp [Statement.extent, closes.finishes] at filled
  · rw [← moves.counter_eq]
    exact moves.counter_le

/-- The text records of a walk with tracked addresses hold bytes at addresses that there are. -/
theorem Traces.image_lt {cursor last : Cursor} {statements : List Statement} {terminated : Bool}
    (traces : Traces cursor statements last terminated) {table : OpcodeTable} {options : Options}
    {symbols : SymbolTable} {program : Program} {records : ObjectProgram}
    (tracked : options.addressing = .tracked)
    (built : ObjectProgram.ofStatements table options symbols program statements = .ok records) :
    ∀ place ∈ ObjectProgram.image records, place.1 < addressCount := by
  obtain ⟨emissions, emitted, rfl⟩ := ObjectProgram.ofStatements_eq_ok built
  have emitting := traces.emitting emitted
  have joined : Contiguous none emissions := emitting.contiguous (by simp)
  rw [ObjectProgram.image, ObjectProgram.filterMap_textRecord?, tracked]
  show ∀ place ∈ (packTracked emissions).flatMap TextRecord.image, place.1 < addressCount
  rw [flatMap_image_packTracked joined]
  exact emitting.image_lt

/-- The pieces of a constant of a walk lie where the sums of the cuts say, at addresses that there
are. -/
theorem Traces.cut_lt {cursor last : Cursor} {statements : List Statement} {terminated : Bool}
    (traces : Traces cursor statements last terminated) {statement : Statement}
    (member : statement ∈ statements) {table : OpcodeTable} {symbols : SymbolTable}
    {policy : Strictness} {address index : Nat} {data : List UInt8} {piece : Emission}
    (emitted : statement.emission table symbols policy = .ok (.fragment address (.bytes data)))
    (found : (Emission.fragment address (.bytes data)).cut[index]? = some piece) :
    (∃ content, piece = .fragment (address + recordCapacity * index) content) ∧
      address + recordCapacity * index < addressCount := by
  generalize result : Emission.fragment address (.bytes data) = emission at emitted
  cases Statement.emission_emits emitted with
  | gap whole => cases result
  | fragment content ordinary size filled unreserved =>
    cases result
    have positive : 0 < data.length := filled
    have length : data.length = statement.extent := size
    have below : statement.address + statement.extent ≤ addressCount :=
      traces.address_add_extent_le statement member (Nat.lt_of_lt_of_eq filled size)
    have unwrapped : addressCount < addressWrap := by decide
    obtain ⟨placed, inside⟩ := followsRecords_of_getElem?_cutBytes positive (by omega) found
    exact ⟨placed, by omega⟩

/-! ### The law -/

/-- The law of the arithmetic on addresses, for the lines of a source. -/
structure Layout.ArithmeticLaw (table : OpcodeTable) (options : Options) (lines : List String) :
    Prop where
  /-- Every line finds the cursor in range and leaves it there. -/
  within : ∀ cursor number fields, Meets table options lines cursor number fields →
    cursor.Within ∧ ∀ statement moved,
      cursor.place table options.duplicateLabels number fields = .ok (statement, moved) →
        moved.Within
  /-- The products and the sums of every line are below the number of words of 64 bits. -/
  sums_fit : ∀ cursor number fields, Meets table options lines cursor number fields →
    fields.Short → ∀ statement, cursor.statement table number fields = .ok statement →
      (∀ count, statement.number .decimal .reservedWords = .ok count → 3 * count < 2 ^ 64) ∧
        ∀ size, statement.size = .ok size → cursor.counter + size < 2 ^ 64
  /-- A line is refused for its address exactly if it passes every other check and asks for an
  address that is too far up. -/
  range_check : ∀ cursor number fields, Meets table options lines cursor number fields →
    ∀ statement, cursor.statement table number fields = .ok statement →
      ((∃ address line, cursor.place table options.duplicateLabels number fields =
          .error (.addressOutOfRange address line)) ↔
        cursor.Admits options.duplicateLabels statement ∧ cursor.TooFar statement)
  /-- The length of the program is what lies between its start and the counter. -/
  length_exact : ∀ found,
    walk table options.duplicateLabels {} (numberedFields options.fieldStyle lines) = .ok found →
      found.cursor.Within ∧
        found.cursor.start + (ofWalk found).program.length = found.cursor.counter
  /-- In machine words the lines are laid out in the same way, though products and sums wrap around
  there, the counter is cut down to 32 bits and the length is a difference of words. -/
  in_words : (∀ entry ∈ numberedFields options.fieldStyle lines, entry.2.Short) →
    ofLinesInWords table options lines = ofLines table options lines
  /-- Whatever object program with tracked addresses is built from the statements, its bytes lie at
  addresses that there are. -/
  bytes_in_range : ∀ layout, ofLines table options lines = .ok layout →
    ∀ (other : OpcodeTable) (choices : Options) symbols program records,
      choices.addressing = .tracked →
        ObjectProgram.ofStatements other choices symbols program layout.statements = .ok records →
          ∀ place ∈ ObjectProgram.image records, place.1 ≤ 0xFFFFFF
  /-- Whatever constant is cut, the sum that each cut makes is the address of the next piece, and
  it is an address that there is. -/
  cuts_in_range : ∀ layout, ofLines table options lines = .ok layout →
    ∀ statement ∈ layout.statements, ∀ (other : OpcodeTable) symbols policy address data,
      statement.emission other symbols policy = .ok (.fragment address (.bytes data)) →
        ∀ (index : Nat) piece, (Emission.fragment address (.bytes data)).cut[index]? = some piece →
          (∃ content, piece = .fragment (address + 30 * index) content) ∧
            address + 30 * index ≤ 0xFFFFFF
  /-- Lines are numbered from one, so the number before that of a statement is not negative. -/
  lines_from_one : ∀ layout, ofLines table options lines = .ok layout →
    ∀ statement ∈ layout.statements, 1 ≤ statement.line

theorem Cursor.fields_of_statement {cursor : Cursor} {table : OpcodeTable} {line : Nat}
    {fields : Fields} {statement : Statement}
    (found : cursor.statement table line fields = .ok statement) : statement.toFields = fields := by
  unfold Cursor.statement at found
  split at found
  · cases found
    rfl
  · cases found

/-- The arithmetic on addresses is exact, for every table, every options and every source. -/
theorem Layout.ofLines_arithmeticLaw (table : OpcodeTable) (options : Options)
    (lines : List String) : Layout.ArithmeticLaw table options lines := by
  constructor
  case within =>
    intro cursor number fields meets
    exact ⟨meets.within, fun statement moved placed => meets.within.place placed⟩
  case sums_fit =>
    intro cursor number fields meets short statement found
    rw [← Cursor.fields_of_statement found] at short
    refine ⟨fun count read => ?_, fun size measured => ?_⟩
    · have small := Statement.number_lt read
      omega
    · have small := Statement.size_lt short measured
      have counter := meets.within.counter_le
      omega
  case range_check =>
    intro cursor number fields meets statement found
    rw [Cursor.place, found]
    exact meets.within.settle_outOfRange_iff
  case length_exact =>
    intro found walks
    have within := (walk_traces walks).within Cursor.within_first
    exact ⟨within, Nat.add_sub_cancel' within.start_le_counter⟩
  case in_words =>
    intro short
    exact (ofLines_eq_ofLinesInWords table options short).symm
  case bytes_in_range =>
    intro layout laidOut other choices symbols program records tracked built place member
    obtain ⟨found, walks, rfl⟩ := ofLines_eq_ok laidOut
    exact Nat.le_of_lt_succ ((walk_traces walks).image_lt tracked built place member)
  case cuts_in_range =>
    intro layout laidOut statement member other symbols policy address data emitted index piece cut
    obtain ⟨found, walks, rfl⟩ := ofLines_eq_ok laidOut
    obtain ⟨placed, below⟩ := (walk_traces walks).cut_lt member emitted cut
    exact ⟨placed, Nat.le_of_lt_succ below⟩
  case lines_from_one =>
    intro layout laidOut statement member
    obtain ⟨found, walks, rfl⟩ := ofLines_eq_ok laidOut
    have numbers := (walk_line_sublist walks).subset (List.mem_map_of_mem member)
    exact (List.mem_range'_1.mp numbers).1

/-- A constant that is cut fills the memory up to the last address, and the next byte is refused. -/
theorem Layout.arithmeticLaw_at_last_address :
    let lines := ["P START FFFFDD", " BYTE C'ABCDEFGHIJKLMNOPQRSTUVWXYZ012345678'", " RESB 1"]
    let fields : Fields := ⟨none, "RESB", some "1"⟩
    (∃ cursor statement, Meets .sicMachine {} lines cursor 3 fields ∧
      cursor.statement .sicMachine 3 fields = .ok statement ∧ cursor.counter = 0x1000000 ∧
      cursor.Within ∧ cursor.Admits .lenient statement ∧ cursor.TooFar statement) ∧
    ofLinesInWords .sicMachine {} lines = .error (.addressOutOfRange 0x1000001 3) ∧
    ∃ layout, ofLines .sicMachine {} (lines.take 2) = .ok layout ∧
      ∃ records, ObjectProgram.ofLayout .sicMachine {} layout = .ok records ∧
        ∀ place ∈ ObjectProgram.image records, place.1 ≤ 0xFFFFFF := by
  intro lines fields
  have law := ofLines_arithmeticLaw .sicMachine {} lines
  refine ⟨?_, ?_, ?_⟩
  · obtain ⟨found, walks, unclosed, full, refused⟩ : ∃ found,
        walk .sicMachine .lenient {} (numberedFields .columns (lines.take 2)) = .ok found ∧
          found.terminated = false ∧ found.cursor.counter = 0x1000000 ∧
          found.cursor.place .sicMachine .lenient 3 fields =
            .error (.addressOutOfRange 0x1000001 3) :=
      exists_ok_and
        (fun found => decide (found.terminated = false ∧ found.cursor.counter = 0x1000000 ∧
          found.cursor.place .sicMachine .lenient 3 fields =
            .error (.addressOutOfRange 0x1000001 3)))
        (by decide +kernel) fun found _ checked => of_decide_eq_true checked
    have parts : lines = lines.take 2 ++ " RESB 1" :: [] := rfl
    have meets : Meets .sicMachine {} lines found.cursor 3 fields :=
      .intro parts walks unclosed (by decide +kernel)
    have known : Operation.ofMnemonic? .sicMachine "RESB" = some .reserveBytes := by decide +kernel
    have asked : found.cursor.statement .sicMachine 3 fields =
        .ok { fields with
          line := 3, address := found.cursor.counter, operation := .reserveBytes } := by
      rw [Cursor.statement, known]
    obtain ⟨admits, tooFar⟩ :=
      (law.range_check found.cursor 3 fields meets _ asked).mp ⟨0x1000001, 3, refused⟩
    exact ⟨found.cursor, _, meets, asked, full, (law.within _ _ _ meets).1, admits, tooFar⟩
  · rw [law.in_words (by decide +kernel)]
    decide +kernel
  · refine exists_ok_and
      (fun layout => (ObjectProgram.ofLayout .sicMachine {} layout).toOption.any fun _ => true)
      (by decide +kernel) fun layout laidOut checked => ?_
    refine exists_ok_and (fun _ => true) checked fun records built _ => ?_
    exact (ofLines_arithmeticLaw .sicMachine {} (lines.take 2)).bytes_in_range layout laidOut
      .sicMachine {} layout.symbols layout.program records rfl built

end SicAssembler
