/-
This file lets two walks run side by side whose cursors stand at different
addresses. Nothing that a walk decides depends on where it stands, except
whether an address is still in range: labels are compared with labels, sizes
come from operands, and the counter only ever moves by sizes. So if the one walk
succeeds, the other makes the same steps at displaced addresses until it comes
to an address that is out of range, or to the end.

`Follows` is that relation between two runs. It is closed under running one
step after the other, so a walk is followed step by step.
-/

import Mathlib.Data.List.Forall2
import SicAssembler.Proofs.Symbols

namespace SicAssembler

/-! ### A run that follows another -/

/-- Whether a run comes to a result with the given property, unless it stops at an address that
is out of range. -/
def Reaches {Value : Type} (property : Value → Prop) (run : Except AssemblyError Value) : Prop :=
  (∃ value, run = .ok value ∧ property value) ∨
    ∃ address line, run = .error (.addressOutOfRange address line)

namespace Reaches

variable {First Second : Type} {property : First → Prop} {run : Except AssemblyError First}

/-- A run that comes to a result comes to one with the property. -/
theorem of_eq_ok (reaches : Reaches property run) {value : First} (ran : run = .ok value) :
    property value := by
  rcases reaches with ⟨result, same, holds⟩ | ⟨address, line, stopped⟩
  · rw [ran] at same
    rw [Except.ok.inj same]
    exact holds
  · rw [ran] at stopped
    cases stopped

/-- A run that stops does so at an address that is out of range. -/
theorem of_eq_error (reaches : Reaches property run) {cause : AssemblyError}
    (stopped : run = .error cause) : ∃ address line, cause = .addressOutOfRange address line := by
  rcases reaches with ⟨value, ran, -⟩ | ⟨address, line, same⟩
  · rw [stopped] at ran
    cases ran
  · rw [stopped] at same
    exact ⟨address, line, Except.error.inj same⟩

theorem bind {next : First → Except AssemblyError Second} {after : Second → Prop}
    (reaches : Reaches property run)
    (goesOn : ∀ value, property value → Reaches after (next value)) :
    Reaches after (run >>= next) := by
  rcases reaches with ⟨value, rfl, holds⟩ | ⟨address, line, rfl⟩
  · exact goesOn value holds
  · exact Or.inr ⟨address, line, rfl⟩

end Reaches

/-- Whether the second run reaches a related result if the first comes to a result. -/
def Follows {First Second : Type} (related : First → Second → Prop)
    (run : Except AssemblyError First) (other : Except AssemblyError Second) : Prop :=
  ∀ value, run = .ok value → Reaches (related value) other

namespace Follows

variable {First Second Third Fourth : Type} {related : First → Second → Prop}

theorem of_ok {value : First} {result : Second} (holds : related value result) :
    Follows related (.ok value) (.ok result) := by
  rintro _ ⟨⟩
  exact Or.inl ⟨result, rfl, holds⟩

theorem of_outOfRange {run : Except AssemblyError First} (address line : Nat) :
    Follows related run (.error (.addressOutOfRange address line)) :=
  fun _ _ => Or.inr ⟨address, line, rfl⟩

/-- A run that stops asks nothing of the one that follows it. -/
theorem of_error {cause : AssemblyError} {other : Except AssemblyError Second} :
    Follows related (.error cause) other :=
  fun _ stopped => nomatch stopped

theorem refl {run : Except AssemblyError First} : Follows Eq run run :=
  fun value result => Or.inl ⟨value, result, rfl⟩

/-- Steps that follow each other one by one make runs that follow each other. -/
theorem bind {run : Except AssemblyError First} {other : Except AssemblyError Second}
    {next : First → Except AssemblyError Third} {otherNext : Second → Except AssemblyError Fourth}
    {after : Third → Fourth → Prop} (follows : Follows related run other)
    (goesOn : ∀ value result, related value result →
      Follows after (next value) (otherNext result)) :
    Follows after (run >>= next) (other >>= otherNext) := by
  intro final finished
  obtain ⟨value, ran, rest⟩ := bind_eq_ok_iff.mp finished
  exact (follows value ran).bind fun result holds => goesOn value result holds final rest

theorem mapM {step : First → Except AssemblyError Third}
    {otherStep : Second → Except AssemblyError Fourth} {after : Third → Fourth → Prop}
    {items : List First} {others : List Second} (items_related : List.Forall₂ related items others)
    (goesOn : ∀ item other, related item other → Follows after (step item) (otherStep other)) :
    Follows (List.Forall₂ after) (items.mapM step) (others.mapM otherStep) := by
  induction items_related with
  | nil => exact of_ok .nil
  | cons first rest inductionHypothesis =>
    rw [List.mapM_cons, List.mapM_cons]
    refine (goesOn _ _ first).bind fun value result holds => ?_
    refine inductionHypothesis.bind fun values results hold => ?_
    exact of_ok (.cons holds hold)

end Follows

/-! ### Displaced addresses and symbols -/

/-- Whether one address is the other, changed by an offset. -/
def Displaced (offset : Int) (address other : Nat) : Prop := (other : Int) = address + offset

/-- Whether an entry has the same label as another and its address displaced. -/
def DisplacedEntry (offset : Int) (entry other : String × Nat) : Prop :=
  other.1 = entry.1 ∧ Displaced offset entry.2 other.2

/-- Whether two symbol tables have the same labels in the same order, at displaced addresses. -/
def SymbolTable.Displaced (offset : Int) (symbols other : SymbolTable) : Prop :=
  List.Forall₂ (DisplacedEntry offset) symbols.entries other.entries

theorem find?_displaced {offset : Int} {entries others : List (String × Nat)}
    (displaced : List.Forall₂ (DisplacedEntry offset) entries others) (label : String) :
    Option.Rel (DisplacedEntry offset) (entries.find? fun entry => entry.1 = label)
      (others.find? fun entry => entry.1 = label) := by
  induction displaced with
  | nil => exact .none
  | @cons entry other entries others first rest inductionHypothesis =>
    rw [List.find?_cons, List.find?_cons, first.1]
    by_cases same : entry.1 = label
    · simp only [same, decide_true]
      exact .some first
    · simp only [same, decide_false]
      exact inductionHypothesis

namespace SymbolTable.Displaced

variable {offset : Int} {symbols other : SymbolTable}

/-- A label is defined in both tables, at displaced addresses, or in neither. -/
theorem get?_cases (displaced : symbols.Displaced offset other) (label : String) :
    (symbols.get? label = none ∧ other.get? label = none) ∨
      ∃ address otherAddress, symbols.get? label = some address ∧
        other.get? label = some otherAddress ∧
        SicAssembler.Displaced offset address otherAddress := by
  have found := find?_displaced displaced label
  unfold Dictionary.get?
  generalize symbols.entries.find? (fun entry => entry.1 = label) = entry? at found ⊢
  generalize other.entries.find? (fun entry => entry.1 = label) = otherEntry? at found ⊢
  cases found with
  | none => exact Or.inl ⟨rfl, rfl⟩
  | some holds => exact Or.inr ⟨_, _, rfl, rfl, holds.2⟩

theorem contains_eq (displaced : symbols.Displaced offset other) (label : String) :
    other.contains label = symbols.contains label := by
  rw [← Dictionary.isSome_get?, ← Dictionary.isSome_get?]
  rcases displaced.get?_cases label with ⟨absent, absentThere⟩ | ⟨_, _, found, foundThere, -⟩
  · rw [absent, absentThere]
  · rw [found, foundThere, Option.isSome_some, Option.isSome_some]

theorem insertIfNew {address otherAddress : Nat} (displaced : symbols.Displaced offset other)
    (here : SicAssembler.Displaced offset address otherAddress) (label : String) :
    SymbolTable.Displaced offset (symbols.insertIfNew label address)
      (other.insertIfNew label otherAddress) := by
  have same := displaced.contains_eq label
  by_cases known : symbols.contains label = true
  · rw [Dictionary.insertIfNew_of_contains _ known,
      Dictionary.insertIfNew_of_contains _ (same.trans known)]
    exact displaced
  · have fresh : ¬ other.contains label = true := by
      rw [same]
      exact known
    unfold SymbolTable.Displaced
    rw [Dictionary.entries_insertIfNew_of_not_contains _ known,
      Dictionary.entries_insertIfNew_of_not_contains _ fresh]
    exact List.rel_append displaced (.cons ⟨rfl, here⟩ .nil)

end SymbolTable.Displaced

/-! ### Displaced statements and cursors -/

/-- Whether a statement is another one at a displaced address. Only a start directive may have
another operand. -/
structure Statement.Displaced (offset : Int) (statement other : Statement) : Prop where
  address : SicAssembler.Displaced offset statement.address other.address
  line : other.line = statement.line
  label? : other.label? = statement.label?
  mnemonic : other.mnemonic = statement.mnemonic
  operation : other.operation = statement.operation
  operand? : statement.operation ≠ .start → other.operand? = statement.operand?

/-- Whether a cursor is another one at a displaced address. -/
structure Cursor.Displaced (offset : Int) (cursor other : Cursor) : Prop where
  start : SicAssembler.Displaced offset cursor.start other.start
  counter : SicAssembler.Displaced offset cursor.counter other.counter
  symbols : cursor.symbols.Displaced offset other.symbols

theorem Statement.displaced_of_address {offset : Int} {statement : Statement} {other : Nat}
    (displaced : SicAssembler.Displaced offset statement.address other) :
    statement.Displaced offset { statement with address := other } :=
  ⟨displaced, rfl, rfl, rfl, rfl, fun _ => rfl⟩

/-- Whether a step leads to a displaced statement and a displaced cursor. -/
def DisplacedStep (offset : Int) (step other : Statement × Cursor) : Prop :=
  step.1.Displaced offset other.1 ∧ step.2.Displaced offset other.2

namespace Cursor.Displaced

variable {offset : Int} {cursor other : Cursor}

theorem defineLabel (displaced : cursor.Displaced offset other) (policy : Strictness)
    {statement moved : Statement} (label : moved.label? = statement.label?) :
    Follows (Cursor.Displaced offset) (cursor.defineLabel policy statement)
      (other.defineLabel policy moved) := by
  unfold Cursor.defineLabel
  rw [label]
  cases statement.label? with
  | none => exact .of_ok displaced
  | some name =>
    simp only [displaced.symbols.contains_eq name]
    by_cases known : cursor.symbols.contains name = true
    · simp only [if_pos known]
      cases policy with
      | lenient => exact .of_ok displaced
      | strict => exact .of_error
    · simp only [if_neg known]
      exact .of_ok ⟨displaced.start, displaced.counter,
        displaced.symbols.insertIfNew displaced.counter name⟩

theorem moveBy (displaced : cursor.Displaced offset other) (size line : Nat) :
    Follows (Cursor.Displaced offset) (cursor.moveBy size line) (other.moveBy size line) := by
  intro moved moves
  obtain ⟨-, rfl⟩ := moveBy_eq_ok_iff.mp moves
  by_cases inRange : other.counter + size ≤ addressCount
  · refine Or.inl ⟨_, moveBy_eq_ok_iff.mpr ⟨inRange, rfl⟩, displaced.start, ?_, displaced.symbols⟩
    have counter := displaced.counter
    unfold SicAssembler.Displaced at counter ⊢
    show ((other.counter + size : Nat) : Int) = (cursor.counter + size : Nat) + offset
    omega
  · exact Or.inr ⟨_, line, if_pos (Nat.lt_of_not_le inRange)⟩

/-- Only a start directive looks at the address that it names. -/
theorem settle (displaced : cursor.Displaced offset other) (policy : Strictness)
    {statement : Statement} (here : statement.address = cursor.counter)
    (notStart : statement.operation ≠ .start) :
    Follows (DisplacedStep offset) (cursor.settle policy statement)
      (other.settle policy { statement with address := other.counter }) := by
  have moved : statement.Displaced offset { statement with address := other.counter } := by
    refine Statement.displaced_of_address ?_
    rw [here]
    exact displaced.counter
  by_cases finishes : statement.operation = .finish
  · have there : other.settle policy { statement with address := other.counter } = _ :=
      settle_of_finish finishes
    rw [settle_of_finish finishes, there]
    dsimp only
    cases statement.label? with
    | none => exact .of_ok ⟨moved, displaced⟩
    | some label => exact .of_error
  · have there : other.settle policy { statement with address := other.counter } = _ :=
      settle_of_ordinary notStart finishes
    rw [settle_of_ordinary notStart finishes, there]
    refine (displaced.defineLabel policy rfl).bind fun labelled otherLabelled labels => ?_
    refine Follows.refl.bind ?_
    rintro size _ rfl
    refine (labels.moveBy size statement.line).bind fun after otherAfter behind => ?_
    exact .of_ok ⟨moved, behind⟩

theorem place (displaced : cursor.Displaced offset other) (table : OpcodeTable)
    (policy : Strictness) (line : Nat) {fields : Fields}
    (notStart : Operation.ofMnemonic? table fields.mnemonic ≠ some .start) :
    Follows (DisplacedStep offset) (cursor.place table policy line fields)
      (other.place table policy line fields) := by
  unfold Cursor.place Cursor.statement
  cases classified : Operation.ofMnemonic? table fields.mnemonic with
  | none => exact .of_error
  | some operation =>
    refine displaced.settle policy rfl ?_
    rintro rfl
    exact notStart classified

end Cursor.Displaced

/-! ### Displaced walks -/

/-- Whether two walks found the same at displaced addresses. -/
structure Walk.Displaced (offset : Int) (found other : Walk) : Prop where
  statements : List.Forall₂ (Statement.Displaced offset) found.statements other.statements
  cursor : found.cursor.Displaced offset other.cursor
  terminated : other.terminated = found.terminated

/-- A walk that goes on is followed if its first step and the rest of it are. -/
theorem Walk.Displaced.cons {offset : Int} {table : OpcodeTable} {policy : Strictness}
    {other moved : Cursor} {line : Nat} {fields : Fields} {rest : List (Nat × Fields)}
    {statement otherStatement : Statement} {later : Walk}
    (same : statement.Displaced offset otherStatement)
    (placed : other.place table policy line fields = .ok (otherStatement, moved))
    (continues : statement.operation ≠ .finish)
    (reaches : Reaches (later.Displaced offset) (walk table policy moved rest)) :
    Reaches
      (Walk.Displaced offset { later with statements := statement :: later.statements })
      (walk table policy other ((line, fields) :: rest)) := by
  have alsoContinues : otherStatement.operation ≠ .finish := by
    rw [same.operation]
    exact continues
  rcases reaches with ⟨otherLater, walked, there⟩ | ⟨address, number, stopped⟩
  · exact Or.inl ⟨_, walk_cons_eq_ok_iff.mpr
      ⟨_, _, placed, Or.inr ⟨alsoContinues, otherLater, walked, rfl⟩⟩,
      .cons same there.statements, there.cursor, there.terminated⟩
  · exact Or.inr ⟨address, number, walk_cons_of_walk_error placed alsoContinues stopped⟩

/-- A walk without start directives is followed by the walk from a displaced cursor. -/
theorem Cursor.Displaced.walk {offset : Int} {cursor other : Cursor}
    (displaced : cursor.Displaced offset other) (table : OpcodeTable) (policy : Strictness)
    {lines : List (Nat × Fields)} {found : Walk}
    (walks : SicAssembler.walk table policy cursor lines = .ok found)
    (ordinary : ∀ statement ∈ found.statements, statement.operation ≠ .start) :
    Reaches (found.Displaced offset) (SicAssembler.walk table policy other lines) := by
  induction lines generalizing cursor other found with
  | nil =>
    rw [SicAssembler.walk] at walks
    cases walks
    exact Or.inl ⟨_, rfl, .nil, displaced, rfl⟩
  | cons entry rest inductionHypothesis =>
    obtain ⟨line, fields⟩ := entry
    obtain ⟨statement, moved, placed, ending⟩ := walk_cons_eq_ok_iff.mp walks
    obtain ⟨-, -, sameFields⟩ := Cursor.place_cases placed
    have inWalk : statement ∈ found.statements := by
      rcases ending with ⟨-, rfl⟩ | ⟨-, later, -, rfl⟩
      · exact List.mem_singleton_self statement
      · exact List.mem_cons_self
    have notStart : Operation.ofMnemonic? table fields.mnemonic ≠ some .start := by
      rw [← sameFields, Cursor.place_classified placed]
      exact fun begins => ordinary statement inWalk (Option.some.inj begins)
    rcases displaced.place table policy line notStart _ placed with
      ⟨⟨otherStatement, otherMoved⟩, otherPlaced, same, behind⟩ | ⟨address, number, stopped⟩
    · rcases ending with ⟨finishes, rfl⟩ | ⟨continues, later, walked, rfl⟩
      · refine Or.inl ⟨_, walk_cons_eq_ok_iff.mpr ⟨_, _, otherPlaced, Or.inl ⟨?_, rfl⟩⟩,
          .cons same .nil, behind, rfl⟩
        exact same.operation.trans finishes
      · exact Walk.Displaced.cons same otherPlaced continues (inductionHypothesis behind walked
          fun other member => ordinary other (List.mem_cons_of_mem _ member))
    · exact Or.inr ⟨address, number, walk_cons_of_place_error stopped rest⟩

end SicAssembler
