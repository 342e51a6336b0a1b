/-
This file says what the first lines of a source tell about the whole of it. A
walk over more lines goes on where the walk over fewer of them came to, so what
those have settled stays: their statements, with their addresses, and their
labels come first in every longer layout.

A run that stops does so at one line. The cause names that line by its number,
whichever check of the line it comes from, and lines without fields count as
well. The lines before it are laid out and do not close the program, and
whatever follows it, the run stops there for the same cause.
-/

import SicAssembler.Proofs.Closing
import SicAssembler.Proofs.Faults

namespace SicAssembler

/-! ### Causes and their lines -/

/-- Whether a run, if it stops, names the given line. -/
def Blames {Value : Type} (line : Nat) (run : Except AssemblyError Value) : Prop :=
  ∀ cause, run = .error cause → cause.line? = some line

namespace Blames

variable {First Second : Type} {line : Nat}

theorem of_ok (value : First) : Blames line (.ok value) := nofun

theorem of_error {cause : AssemblyError} (named : cause.line? = some line) :
    Blames line (.error cause : Except AssemblyError First) := by
  rintro other ⟨⟩
  exact named

theorem bind {step : Except AssemblyError First} {next : First → Except AssemblyError Second}
    (blames : Blames line step) (later : ∀ value, step = .ok value → Blames line (next value)) :
    Blames line (step >>= next) := by
  intro cause stopped
  rcases bind_eq_error_iff.mp stopped with first | ⟨value, ran, second⟩
  · exact blames cause first
  · exact later value ran cause second

theorem map {step : Except AssemblyError First} (change : First → Second)
    (blames : Blames line step) : Blames line (change <$> step) := by
  cases step with
  | ok value => exact of_ok (change value)
  | error cause => exact of_error (blames cause rfl)

end Blames

namespace Statement

theorem blames_operandFor (statement : Statement) (field : NumericField) :
    Blames statement.line (statement.operandFor field) := by
  unfold operandFor
  split
  · exact .of_ok _
  · exact .of_error rfl

theorem blames_number (statement : Statement) (radix : Radix) (field : NumericField) :
    Blames statement.line (statement.number radix field) := by
  refine .bind (statement.blames_operandFor field) fun operand _ => ?_
  split
  · exact .of_ok _
  · exact .of_error rfl

theorem blames_constant (statement : Statement) : Blames statement.line statement.constant := by
  unfold Statement.constant
  dsimp only
  split
  · exact .of_ok _
  · exact .of_error rfl

theorem blames_size (statement : Statement) : Blames statement.line statement.size := by
  unfold Statement.size
  split
  case h_1 | h_2 | h_3 | h_4 => exact .of_ok _
  case h_5 => exact .map _ (statement.blames_number .decimal .reservedWords)
  case h_6 => exact statement.blames_number .decimal .reservedBytes
  case h_7 => exact .map _ statement.blames_constant

end Statement

namespace Cursor

theorem blames_defineLabel (cursor : Cursor) (policy : Strictness) (statement : Statement) :
    Blames statement.line (cursor.defineLabel policy statement) := by
  unfold defineLabel
  split
  · exact .of_ok _
  · split
    · split
      · exact .of_ok _
      · exact .of_error rfl
    · exact .of_ok _

theorem blames_moveBy (cursor : Cursor) (size line : Nat) :
    Blames line (cursor.moveBy size line) := by
  unfold moveBy
  dsimp only
  split
  · exact .of_error rfl
  · exact .of_ok _

theorem blames_moveTo (cursor : Cursor) (statement : Statement) :
    Blames statement.line (cursor.moveTo statement) := by
  refine .bind (statement.blames_number .hexadecimal .startAddress) fun start _ => ?_
  split
  · exact .of_error rfl
  · exact .of_ok _

theorem blames_settle (cursor : Cursor) (policy : Strictness) (statement : Statement) :
    Blames statement.line (cursor.settle policy statement) := by
  unfold settle
  split
  · exact .bind (cursor.blames_moveTo statement) fun _ _ => .of_ok _
  · split
    · exact .of_error rfl
    · exact .of_ok _
  · refine .bind (cursor.blames_defineLabel policy statement) fun labelled _ => ?_
    refine .bind statement.blames_size fun size _ => ?_
    exact .bind (labelled.blames_moveBy size statement.line) fun _ _ => .of_ok _

/-- A line that cannot be placed is blamed for it, whichever of its checks fails. -/
theorem blames_place (cursor : Cursor) (table : OpcodeTable) (policy : Strictness) (line : Nat)
    (fields : Fields) : Blames line (cursor.place table policy line fields) := by
  unfold place Cursor.statement
  split
  · exact cursor.blames_settle policy _
  · exact .of_error rfl

end Cursor

/-! ### Walks that go on -/

/-- What two walks leave behind, the second of which goes on where the first came to. -/
def Walk.andThen (found later : Walk) : Walk :=
  { later with statements := found.statements ++ later.statements }

/-- A walk over two lists goes on from the first to the second, unless it is closed before. -/
theorem walk_append (table : OpcodeTable) (policy : Strictness) (cursor : Cursor)
    (lines others : List (Nat × Fields)) :
    walk table policy cursor (lines ++ others) = (do
      let found ← walk table policy cursor lines
      if found.terminated then return found
      else
        let later ← walk table policy found.cursor others
        return found.andThen later) := by
  induction lines generalizing cursor with
  | nil =>
    show walk table policy cursor others = walk table policy cursor others >>= pure
    rw [bind_pure]
  | cons entry rest inductionHypothesis =>
    obtain ⟨line, fields⟩ := entry
    rw [List.cons_append, walk, walk]
    cases placed : cursor.place table policy line fields with
    | error cause => rfl
    | ok result =>
      obtain ⟨statement, moved⟩ := result
      show (if statement.operation = .finish then _ else _) =
        (if statement.operation = .finish then _ else _) >>= _
      by_cases finishes : statement.operation = .finish
      · rw [if_pos finishes, if_pos finishes]
        rfl
      · rw [if_neg finishes, if_neg finishes, inductionHypothesis moved]
        cases walked : walk table policy moved rest with
        | error cause => rfl
        | ok found =>
          obtain ⟨statements, reached, terminated⟩ := found
          -- If the first list closes the program, nothing is left for the second.
          cases terminated with
          | true => rfl
          | false =>
            show (walk table policy reached others >>= _) >>= _ =
              walk table policy reached others >>= _
            cases walk table policy reached others <;> rfl

theorem numberedFrom_append (style : FieldStyle) (first : Nat) (lines others : List String) :
    numberedFrom style first (lines ++ others) =
      numberedFrom style first lines ++ numberedFrom style (first + lines.length) others := by
  rw [numberedFrom, List.zipIdx_append, List.filterMap_append]
  rfl

/-! ### The line at which a walk stops -/

/-- A walk stops where its first line cannot be placed, or the others cannot behind it. -/
theorem walk_cons_eq_error_iff {table : OpcodeTable} {policy : Strictness} {cursor : Cursor}
    {line : Nat} {fields : Fields} {rest : List (Nat × Fields)} {cause : AssemblyError} :
    walk table policy cursor ((line, fields) :: rest) = .error cause ↔
      cursor.place table policy line fields = .error cause ∨
        ∃ statement moved, cursor.place table policy line fields = .ok (statement, moved) ∧
          statement.operation ≠ .finish ∧ walk table policy moved rest = .error cause := by
  constructor
  · intro stopped
    rw [walk] at stopped
    rcases bind_eq_error_iff.mp stopped with first | ⟨⟨statement, moved⟩, placed, later⟩
    · exact Or.inl first
    · dsimp only at later
      by_cases finishes : statement.operation = .finish
      · rw [if_pos finishes] at later
        cases later
      · rw [if_neg finishes] at later
        rcases bind_eq_error_iff.mp later with inRest | ⟨found, -, impossible⟩
        · exact Or.inr ⟨statement, moved, placed, finishes, inRest⟩
        · cases impossible
  · rintro (first | ⟨statement, moved, placed, ordinary, inRest⟩)
    · exact walk_cons_of_place_error first rest
    · exact walk_cons_of_walk_error placed ordinary inRest

/-- A walk stops exactly at a line that cannot be placed where the walk over the lines before it
came to, if these do not close the program. What follows that line does not matter. -/
theorem walk_eq_error_iff {table : OpcodeTable} {policy : Strictness} {style : FieldStyle}
    {lines : List String} {first : Nat} {cursor : Cursor} {cause : AssemblyError} :
    walk table policy cursor (numberedFrom style first lines) = .error cause ↔
      ∃ before line after fields found, lines = before ++ line :: after ∧
        walk table policy cursor (numberedFrom style first before) = .ok found ∧
        found.terminated = false ∧ Fields.ofLine? style line = some fields ∧
        found.cursor.place table policy (first + before.length) fields = .error cause := by
  constructor
  · intro stopped
    induction lines generalizing first cursor with
    | nil => cases stopped
    | cons line rest inductionHypothesis =>
      cases divided : Fields.ofLine? style line with
      | none =>
        -- The line is not placed, but it is one of the lines before the bad one.
        rw [numberedFrom_cons_of_none divided] at stopped
        obtain ⟨before, bad, after, fields, found, rfl, walks, unclosed, badDivided, stops⟩ :=
          inductionHypothesis stopped
        refine ⟨line :: before, bad, after, fields, found, rfl, ?_, unclosed, badDivided, ?_⟩
        · rw [numberedFrom_cons_of_none divided]
          exact walks
        · rw [List.length_cons, ← Nat.add_assoc, Nat.add_right_comm]
          exact stops
      | some fields =>
        rw [numberedFrom_cons_of_some divided] at stopped
        rcases walk_cons_eq_error_iff.mp stopped with stops | ⟨statement, moved, placed, ordinary,
          inRest⟩
        · exact ⟨[], line, rest, fields, ⟨[], cursor, false⟩, rfl, rfl, rfl, divided, stops⟩
        · obtain ⟨before, bad, after, badFields, found, rfl, walks, unclosed, badDivided, stops⟩ :=
            inductionHypothesis inRest
          refine ⟨line :: before, bad, after, badFields,
            { found with statements := statement :: found.statements }, rfl, ?_, unclosed,
            badDivided, ?_⟩
          · rw [numberedFrom_cons_of_some divided]
            exact walk_cons_eq_ok_iff.mpr
              ⟨statement, moved, placed, Or.inr ⟨ordinary, found, walks, rfl⟩⟩
          · rw [List.length_cons, ← Nat.add_assoc, Nat.add_right_comm]
            exact stops
  · rintro ⟨before, line, after, fields, found, rfl, walks, unclosed, divided, stops⟩
    rw [numberedFrom_append, numberedFrom_cons_of_some divided, walk_append, walks]
    show (if found.terminated = true then _ else _) = _
    rw [if_neg (Bool.eq_false_iff.mp unclosed), walk_cons_of_place_error stops]
    rfl

/-! ### The labels of a walk -/

/-- A step keeps the labels that are defined, with their addresses and in their order. -/
theorem Cursor.Moves.keeps_symbols {cursor moved : Cursor} {statement : Statement}
    (moves : cursor.Moves statement moved) :
    cursor.symbols.entries <+: moved.symbols.entries := by
  cases moves with
  | restart begins named inRange => exact List.prefix_rfl
  | advance ordinary continues here measured inRange =>
    show _ <+: (cursor.symbolsAfter statement).entries
    unfold Cursor.symbolsAfter
    split
    · exact List.prefix_rfl
    · next label _ =>
      by_cases known : cursor.symbols.contains label = true
      · simp [Dictionary.insertIfNew_of_contains _ known]
      · rw [Dictionary.entries_insertIfNew_of_not_contains _ known]
        exact List.prefix_append _ _

theorem Traces.keeps_symbols {cursor last : Cursor} {statements : List Statement}
    {terminated : Bool} (traces : Traces cursor statements last terminated) :
    cursor.symbols.entries <+: last.symbols.entries := by
  induction traces with
  | exhausted cursor => exact List.prefix_rfl
  | closed closes => exact List.prefix_rfl
  | step moves later inductionHypothesis => exact moves.keeps_symbols.trans inductionHypothesis

/-- What a walk over the first lines found comes first in what a walk over all of them finds. -/
theorem walk_keeps {table : OpcodeTable} {policy : Strictness} {cursor : Cursor}
    {lines others : List (Nat × Fields)} {found whole : Walk}
    (walks : walk table policy cursor lines = .ok found)
    (walksOn : walk table policy cursor (lines ++ others) = .ok whole) :
    found.statements <+: whole.statements ∧
      found.cursor.symbols.entries <+: whole.cursor.symbols.entries := by
  rw [walk_append, walks] at walksOn
  change (if found.terminated = true then _ else _) = _ at walksOn
  by_cases closed : found.terminated = true
  · rw [if_pos closed] at walksOn
    cases walksOn
    exact ⟨List.prefix_rfl, List.prefix_rfl⟩
  · rw [if_neg closed] at walksOn
    obtain ⟨later, walked, result⟩ := bind_eq_ok_iff.mp walksOn
    cases result
    exact ⟨List.prefix_append _ _, (walk_traces walked).keeps_symbols⟩

/-! ### The law -/

namespace Layout

variable {table : OpcodeTable} {options : Options} {lines : List String}

theorem ofLines_eq (loaded : table.isEmpty = false) :
    ofLines table options lines =
      (walk table options.duplicateLabels {} (numberedFrom options.fieldStyle 1 lines) >>=
        fun found => .ok (ofWalk found)) := by
  rw [ofLines, if_neg (Bool.eq_false_iff.mp loaded)]
  rfl

theorem ofLines_eq_error_iff (loaded : table.isEmpty = false) {cause : AssemblyError} :
    ofLines table options lines = .error cause ↔
      walk table options.duplicateLabels {} (numberedFrom options.fieldStyle 1 lines) =
        .error cause := by
  rw [ofLines_eq loaded, bind_eq_error_iff]
  refine or_iff_left ?_
  rintro ⟨found, -, impossible⟩
  cases impossible

/-- The number of the line at which the layout of some lines stops, and what that means for the
lines before it and behind it. -/
structure StopsAt (table : OpcodeTable) (options : Options) (lines : List String)
    (cause : AssemblyError) (number : Nat) : Prop where
  /-- The cause names the line. -/
  named : cause.line? = some number
  /-- It is one of the lines. -/
  within : 1 ≤ number ∧ number ≤ lines.length
  /-- The lines before it are laid out, and the program is not closed there. -/
  before : ∃ layout, ofLines table options (lines.take (number - 1)) = .ok layout ∧
    layout.program.terminated = false
  /-- None of them begins with `END`. -/
  unended : ∀ line ∈ lines.take (number - 1), Fields.isEnd line = false
  /-- The run stops for the same cause whatever comes behind the line. -/
  whatever_follows : ∀ further,
    ofLines table options (lines.take number ++ further) = .error cause

/-- Whether a layout begins with all that another one has. -/
structure Extends (layout shorter : Layout) : Prop where
  statements : shorter.statements <+: layout.statements
  symbols : shorter.symbols.entries <+: layout.symbols.entries

theorem exists_stopsAt (loaded : table.isEmpty = false) {cause : AssemblyError}
    (stopped : ofLines table options lines = .error cause) :
    ∃ number, StopsAt table options lines cause number := by
  obtain ⟨before, line, after, fields, found, rfl, walks, unclosed, divided, stops⟩ :=
    walk_eq_error_iff.mp ((ofLines_eq_error_iff loaded).mp stopped)
  have named := found.cursor.blames_place table options.duplicateLabels _ fields cause stops
  have earlier : (before ++ line :: after).take (1 + before.length - 1) = before := by
    rw [Nat.add_sub_cancel_left, List.take_left]
  have through : (before ++ line :: after).take (1 + before.length) = before ++ [line] := by
    rw [Nat.add_comm, List.take_length_add_append]
    rfl
  refine ⟨1 + before.length, named, ?_, ?_, ?_, ?_⟩
  · simp only [List.length_append, List.length_cons]
    omega
  · refine ⟨ofWalk found, ?_, unclosed⟩
    rw [earlier, ofLines_eq loaded, walks]
    rfl
  · intro other member
    rw [earlier] at member
    refine Bool.eq_false_iff.mpr fun ends => ?_
    cases unclosed.symm.trans ((walk_terminated_iff walks).mpr ⟨other, member, ends⟩)
  · intro further
    rw [through, ofLines_eq_error_iff loaded, walk_eq_error_iff, List.append_assoc]
    exact ⟨before, line, further, fields, found, rfl, walks, unclosed, divided, stops⟩

theorem extends_of_initial {earlier : List String} {shorter layout : Layout}
    (first : earlier <+: lines) (laidOut : ofLines table options earlier = .ok shorter)
    (whole : ofLines table options lines = .ok layout) : layout.Extends shorter := by
  obtain ⟨later, rfl⟩ := first
  obtain ⟨found, walks, rfl⟩ := ofLines_eq_ok laidOut
  obtain ⟨all, walksOn, rfl⟩ := ofLines_eq_ok whole
  rw [numberedFields_eq, numberedFrom_append] at walksOn
  obtain ⟨statements, symbols⟩ := walk_keeps walks walksOn
  exact ⟨statements, symbols⟩

/-- The first bad line stops the layout, whatever follows it, and without one a layout of the first
lines comes first in the layout of all. -/
theorem ofLines_prefixLaw (table : OpcodeTable) (options : Options) (lines : List String)
    (loaded : table.isEmpty = false) :
    (∀ cause, ofLines table options lines = .error cause →
      ∃ number, StopsAt table options lines cause number) ∧
    ∀ earlier shorter layout, earlier <+: lines →
      ofLines table options earlier = .ok shorter → ofLines table options lines = .ok layout →
        layout.Extends shorter :=
  ⟨fun _ => exists_stopsAt loaded, fun _ _ _ => extends_of_initial⟩

/-- A label that is defined again in a line whose operand is wrong too: the label is looked at
first. Two lines without fields count, and what follows does not. -/
theorem prefixLaw_of_repeated_label :
    let lines := ["P START 10", "", "A LDA A", ". note", "A RESB x", " BAD"]
    OpcodeTable.sicMachine.isEmpty = false ∧
    ofLines .sicMachine .strict lines = .error (.duplicateLabel "A" 5) ∧
    StopsAt .sicMachine .strict lines (.duplicateLabel "A" 5) 5 ∧
    ∃ shorter, ofLines .sicMachine .strict ["P START 10", "", "A LDA A"] = .ok shorter ∧
      ∃ layout, ofLines .sicMachine .strict ["P START 10", "", "A LDA A", "B LDA B"] =
          .ok layout ∧
        layout.Extends shorter := by
  intro lines
  have loaded : OpcodeTable.sicMachine.isEmpty = false := by decide +kernel
  have stopped : ofLines .sicMachine .strict lines = .error (.duplicateLabel "A" 5) := by
    decide +kernel
  refine ⟨loaded, stopped, ?_, ?_⟩
  · obtain ⟨number, stops⟩ := (ofLines_prefixLaw .sicMachine .strict lines loaded).1 _ stopped
    cases stops.named
    exact stops
  · refine exists_ok_and (fun _ => true) (by decide +kernel) fun shorter laidOut _ => ?_
    refine exists_ok_and (fun _ => true) (by decide +kernel) fun layout whole _ => ?_
    exact (ofLines_prefixLaw .sicMachine .strict _ loaded).2 _ shorter layout
      (List.prefix_append _ ["B LDA B"]) laidOut whole

end Layout

end SicAssembler
