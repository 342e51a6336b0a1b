/-
This file says how an end directive closes a program, once for the layout and
once for the object program. The layout knows the directive by its line: the
mnemonic of a line without a label is its first token, and a labelled end
directive stops the run, so the walk is closed at the first line whose first
token is `END` and by no other line. The object program knows the directive by
its operation and takes any statements, whether or not they were laid out; it
ends at the first such statement, or behind the last statement if there is
none, and has one end record either way.
-/

import SicAssembler.Proofs.FieldStyles
import SicAssembler.Proofs.RecordFormat

namespace SicAssembler

/-! ### The line of an end directive -/

namespace Fields

theorem mnemonic_ofTokens {indented : Bool} {first : List Char} {rest : List (List Char)}
    (unlabelled : (ofTokens indented first rest).label? = none) :
    (ofTokens indented first rest).mnemonic = String.ofList first := by
  match rest with
  | [] => rfl
  | second :: later =>
    cases indented with
    | true => rfl
    | false => cases unlabelled

theorem mnemonic_byPosition {first : List Char} {rest : List (List Char)}
    (unlabelled : (byPosition first rest).label? = none) :
    (byPosition first rest).mnemonic = String.ofList first := by
  match rest with
  | [] => rfl
  | [second] => rfl
  | second :: third :: later => cases unlabelled

/-- The mnemonic of a line without a label is its first token. -/
theorem head?_tokens_of_unlabelled {style : FieldStyle} {line : String} {fields : Fields}
    (divided : ofLine? style line = some fields) (unlabelled : fields.label? = none) :
    (tokens line.toList).head? = some fields.mnemonic.toList := by
  rw [ofLine?_eq_ofTokens?] at divided
  cases found : tokens line.toList with
  | nil =>
    rw [found] at divided
    cases divided
  | cons first rest =>
    rw [found] at divided
    unfold ofTokens? at divided
    dsimp only at divided
    suffices fields.mnemonic = String.ofList first by
      rw [this, String.toList_ofList, List.head?_cons]
    split at divided
    · cases divided
    · split at divided
      · next ends =>
        cases divided
        subst ends
        rfl
      · cases style with
        | columns =>
          cases divided
          exact mnemonic_ofTokens unlabelled
        | positional =>
          cases divided
          exact mnemonic_byPosition unlabelled

theorem ofLine?_ne_none_of_isEnd {line : String} (ends : isEnd line = true) (style : FieldStyle) :
    ofLine? style line ≠ none := by
  rw [ofLine?_of_isEnd ends]
  exact Option.some_ne_none _

end Fields

/-- The directives that begin and close a program have one name each, whatever the opcode table
holds. -/
theorem Operation.name_of_ofMnemonic? {table : OpcodeTable} {mnemonic : String}
    {operation : Operation} (classified : ofMnemonic? table mnemonic = some operation) :
    (operation = .start → mnemonic = "START") ∧ (operation = .finish → mnemonic = "END") := by
  constructor <;> rintro rfl
  all_goals
    unfold ofMnemonic? at classified
    split at classified
    · next operation found =>
      cases classified
      unfold directive? at found
      repeat' split at found
      all_goals first
        | assumption
        | cases found
    -- What is not the name of a directive is a byte constant or an instruction, if anything.
    · repeat' split at classified
      all_goals cases classified

/-- A line that is placed closes the program exactly if its first token is `END`. -/
theorem Cursor.place_finish_iff {cursor moved : Cursor} {table : OpcodeTable}
    {policy : Strictness} {style : FieldStyle} {number : Nat} {line : String} {fields : Fields}
    {statement : Statement} (divided : Fields.ofLine? style line = some fields)
    (placed : cursor.place table policy number fields = .ok (statement, moved)) :
    statement.operation = .finish ↔ Fields.isEnd line = true := by
  constructor
  · intro finishes
    obtain ⟨effect, -, rfl⟩ := Cursor.place_cases placed
    rcases effect with ⟨closes, -⟩ | moves
    · have classified := Cursor.place_classified placed
      rw [finishes] at classified
      have first := Fields.head?_tokens_of_unlabelled divided closes.unlabelled
      rw [(Operation.name_of_ofMnemonic? classified).2 rfl] at first
      exact decide_eq_true first
    · exact absurd finishes moves.continues
  · intro ends
    rw [Fields.ofLine?_of_isEnd ends] at divided
    cases divided
    rw [Cursor.place_end] at placed
    cases placed
    rfl

/-! ### The layout -/

/-- A walk is closed exactly if one of its lines begins with `END`. -/
theorem walk_terminated_iff {table : OpcodeTable} {policy : Strictness} {style : FieldStyle}
    {lines : List String} {first : Nat} {cursor : Cursor} {found : Walk}
    (walks : walk table policy cursor (numberedFrom style first lines) = .ok found) :
    found.terminated = true ↔ ∃ line ∈ lines, Fields.isEnd line = true := by
  induction lines generalizing first cursor found with
  | nil =>
    cases walks
    simp
  | cons line rest inductionHypothesis =>
    rw [List.exists_mem_cons_iff]
    cases divided : Fields.ofLine? style line with
    | none =>
      have continues : ¬ Fields.isEnd line = true := fun ends =>
        Fields.ofLine?_ne_none_of_isEnd ends style divided
      rw [numberedFrom_cons_of_none divided] at walks
      rw [inductionHypothesis walks, or_iff_right continues]
    | some fields =>
      rw [numberedFrom_cons_of_some divided] at walks
      obtain ⟨statement, moved, placed, ending⟩ := walk_cons_eq_ok_iff.mp walks
      rw [← Cursor.place_finish_iff divided placed]
      rcases ending with ⟨finishes, rfl⟩ | ⟨continues, later, walked, rfl⟩
      · exact iff_of_true rfl (Or.inl finishes)
      · rw [or_iff_right continues]
        show later.terminated = true ↔ _
        exact inductionHypothesis walked

/-- An end directive stands last in a walk that is closed, and nowhere else. -/
theorem Traces.finish_last {cursor last : Cursor} {statements : List Statement} {terminated : Bool}
    (traces : Traces cursor statements last terminated) :
    ∃ before, (∀ statement ∈ before, statement.operation ≠ .finish) ∧
      (terminated = false ∧ statements = before ∨
        terminated = true ∧ ∃ closing, closing.operation = .finish ∧
          statements = before ++ [closing]) := by
  induction traces with
  | exhausted cursor => exact ⟨[], List.forall_mem_nil _, Or.inl ⟨rfl, rfl⟩⟩
  | @closed cursor statement closes =>
    exact ⟨[], List.forall_mem_nil _, Or.inr ⟨rfl, statement, closes.finishes, rfl⟩⟩
  | @step cursor moved last statement rest terminated moves later inductionHypothesis =>
    obtain ⟨before, ongoing, ending⟩ := inductionHypothesis
    refine ⟨statement :: before, List.forall_mem_cons.mpr ⟨moves.continues, ongoing⟩, ?_⟩
    rcases ending with ⟨unclosed, rfl⟩ | ⟨closed, closing, finishes, rfl⟩
    · exact Or.inl ⟨unclosed, rfl⟩
    · exact Or.inr ⟨closed, closing, finishes, rfl⟩

theorem throughEnd_append {before : List String} {line : String} (after : List String)
    (ongoing : ∀ earlier ∈ before, Fields.isEnd earlier = false)
    (ends : Fields.isEnd line = true) :
    throughEnd (before ++ line :: after) = before ++ [line] := by
  induction before with
  | nil => exact if_pos ends
  | cons head rest inductionHypothesis =>
    obtain ⟨plain, later⟩ := List.forall_mem_cons.mp ongoing
    rw [List.cons_append, throughEnd, if_neg (Bool.eq_false_iff.mp plain),
      inductionHypothesis later, List.cons_append]

/-- A layout depends on the lines through the first `END` only. -/
theorem Layout.ofLines_throughEnd (table : OpcodeTable) (options : Options) (lines : List String) :
    Layout.ofLines table options lines = Layout.ofLines table options (throughEnd lines) := by
  unfold Layout.ofLines
  rw [numberedFields_eq, numberedFields_eq, walk_throughEnd]

/-- How an end directive closes the layout of the given lines. -/
structure Layout.ClosingLaw (table : OpcodeTable) (options : Options) (lines : List String) :
    Prop where
  /-- What stands behind the first line that begins with `END` does not count, be it for a layout
  or for the cause that stops the run. -/
  through_end : ∀ before line after, lines = before ++ line :: after →
    (∀ earlier ∈ before, Fields.isEnd earlier = false) → Fields.isEnd line = true →
      Layout.ofLines table options lines = Layout.ofLines table options (before ++ [line])
  /-- The program is closed if there is such a line, and only then. -/
  terminated_iff : ∀ layout, Layout.ofLines table options lines = .ok layout →
    (layout.program.terminated = true ↔ ∃ line ∈ lines, Fields.isEnd line = true)
  /-- The end directive of a closed program is its last statement, and there is no other. -/
  finish_last : ∀ layout, Layout.ofLines table options lines = .ok layout →
    layout.program.terminated = true →
      ∃ before closing, layout.statements = before ++ [closing] ∧
        closing.operation = .finish ∧ ∀ statement ∈ before, statement.operation ≠ .finish
  /-- A program that is not closed has no end directive. -/
  unclosed : ∀ layout, Layout.ofLines table options lines = .ok layout →
    layout.program.terminated = false →
      ∀ statement ∈ layout.statements, statement.operation ≠ .finish

theorem Layout.closingLaw (table : OpcodeTable) (options : Options) (lines : List String) :
    Layout.ClosingLaw table options lines := by
  constructor
  case through_end =>
    rintro before line after rfl ongoing ends
    rw [Layout.ofLines_throughEnd, throughEnd_append after ongoing ends]
  case terminated_iff =>
    intro layout laidOut
    obtain ⟨found, walks, rfl⟩ := Layout.ofLines_eq_ok laidOut
    exact walk_terminated_iff walks
  case finish_last =>
    intro layout laidOut terminated
    obtain ⟨found, walks, rfl⟩ := Layout.ofLines_eq_ok laidOut
    obtain ⟨before, ongoing, ⟨unclosed, -⟩ | ⟨-, closing, finishes, parts⟩⟩ :=
      (walk_traces walks).finish_last
    · cases unclosed.symm.trans terminated
    · exact ⟨before, closing, parts, finishes, ongoing⟩
  case unclosed =>
    intro layout laidOut unclosed
    obtain ⟨found, walks, rfl⟩ := Layout.ofLines_eq_ok laidOut
    obtain ⟨before, ongoing, ⟨-, parts⟩ | ⟨closed, -⟩⟩ := (walk_traces walks).finish_last
    · rw [show (Layout.ofWalk found).statements = before from parts]
      exact ongoing
    · cases unclosed.symm.trans closed

/-! ### The object program -/

/-- Each value that a run over a list gives comes from an item of it. -/
theorem exists_mem_of_mapM {Cause Item Value : Type} {step : Item → Except Cause Value}
    {items : List Item} {values : List Value} (run : items.mapM step = .ok values) :
    ∀ value ∈ values, ∃ item ∈ items, step item = .ok value := by
  induction items generalizing values with
  | nil =>
    cases run
    exact List.forall_mem_nil _
  | cons item rest inductionHypothesis =>
    obtain ⟨value, later, first, inRest, rfl⟩ := mapM_cons_eq_ok run
    refine List.forall_mem_cons.mpr ⟨⟨item, List.mem_cons_self, first⟩, fun other member => ?_⟩
    obtain ⟨source, inItems, gives⟩ := inductionHypothesis inRest other member
    exact ⟨source, List.mem_cons_of_mem _ inItems, gives⟩

/-- What a statement emits has bytes, if it is a fragment. -/
theorem Statement.Emits.filled {statement : Statement} {emission : Emission}
    (emits : statement.Emits emission) : emission.Filled := by
  cases emits with
  | gap whole => trivial
  | fragment content ordinary size positive unreserved => exact positive

namespace ObjectRecord

/-- Whether a record is a header. -/
def isHeader : ObjectRecord → Bool
  | header _ _ _ => true
  | _ => false

/-- Whether a record is an end record. -/
def isFinish : ObjectRecord → Bool
  | finish _ => true
  | _ => false

end ObjectRecord

namespace ObjectProgram

/-- Records that are no text records are to be found at the ends only. -/
theorem countP_of_not_text {accepts : ObjectRecord → Bool}
    (noText : ∀ text, accepts (.text text) = false) (name : String) (start length : Nat)
    (texts : List TextRecord) :
    (ObjectRecord.header name start length :: texts.map ObjectRecord.text ++
      [ObjectRecord.finish start]).countP accepts =
      [ObjectRecord.header name start length, ObjectRecord.finish start].countP accepts := by
  have nothing : (texts.map ObjectRecord.text).countP accepts = 0 := by
    rw [List.countP_map]
    exact List.countP_eq_zero.mpr fun text _ => Bool.eq_false_iff.mp (noText text)
  simp only [List.countP_append, List.countP_cons, List.countP_nil, nothing]
  omega

theorem beforeFinish_append {before : List Statement}
    (ongoing : ∀ statement ∈ before, statement.operation ≠ .finish) (rest : List Statement) :
    beforeFinish (before ++ rest) = before ++ beforeFinish rest := by
  induction before with
  | nil => rfl
  | cons statement later inductionHypothesis =>
    obtain ⟨continues, others⟩ := List.forall_mem_cons.mp ongoing
    rw [List.cons_append, beforeFinish_cons continues, inductionHypothesis others,
      List.cons_append]

/-- An object program depends on the statements before the first end directive only. -/
theorem ofStatements_congr {statements others : List Statement}
    (same : beforeFinish statements = beforeFinish others) (table : OpcodeTable)
    (options : Options) (symbols : SymbolTable) (program : Program) :
    ofStatements table options symbols program statements =
      ofStatements table options symbols program others := by
  unfold ofStatements
  rw [same]

/-- How an end directive closes the object program of the given statements. -/
structure ClosingLaw (table : OpcodeTable) (options : Options) (symbols : SymbolTable)
    (program : Program) (statements : List Statement) : Prop where
  /-- A header comes first and an end record with the same address last. What is between them are
  text records, and each of them has bytes. -/
  shape : ∀ records, ofStatements table options symbols program statements = .ok records →
    ∃ texts : List TextRecord, records =
        .header program.name program.start program.length :: texts.map .text ++
          [.finish program.start] ∧
      ∀ text ∈ texts, text.Filled
  /-- There is one header. -/
  header_once : ∀ records, ofStatements table options symbols program statements = .ok records →
    records.countP ObjectRecord.isHeader = 1
  /-- There is one end record, whether or not a statement asks for it. -/
  finish_once : ∀ records, ofStatements table options symbols program statements = .ok records →
    records.countP ObjectRecord.isFinish = 1
  /-- What stands behind the first end directive does not count. -/
  through_finish : ∀ before closing after, statements = before ++ closing :: after →
    (∀ statement ∈ before, statement.operation ≠ .finish) → closing.operation = .finish →
      ofStatements table options symbols program statements =
        ofStatements table options symbols program (before ++ [closing])
  /-- The records are the same if the end directive is missing. -/
  without_finish : ∀ before closing after, statements = before ++ closing :: after →
    (∀ statement ∈ before, statement.operation ≠ .finish) → closing.operation = .finish →
      ofStatements table options symbols program statements =
        ofStatements table options symbols program before

theorem closingLaw (table : OpcodeTable) (options : Options) (symbols : SymbolTable)
    (program : Program) (statements : List Statement) :
    ClosingLaw table options symbols program statements := by
  have closed {before : List Statement} {closing : Statement} (after : List Statement)
      (ongoing : ∀ statement ∈ before, statement.operation ≠ .finish)
      (finishes : closing.operation = .finish) :
      beforeFinish (before ++ closing :: after) = before := by
    rw [beforeFinish_append ongoing, beforeFinish_cons_of_finish finishes, List.append_nil]
  constructor
  case shape =>
    intro records built
    obtain ⟨emissions, emitted, rfl⟩ := ofStatements_eq_ok built
    refine ⟨_, rfl, filled_of_mem_textRecords fun emission member => ?_⟩
    obtain ⟨statement, -, emits⟩ := exists_mem_of_mapM emitted emission member
    exact (Statement.emission_emits emits).filled
  case header_once =>
    intro records built
    obtain ⟨emissions, -, rfl⟩ := ofStatements_eq_ok built
    exact countP_of_not_text (fun _ => rfl) _ _ _ _
  case finish_once =>
    intro records built
    obtain ⟨emissions, -, rfl⟩ := ofStatements_eq_ok built
    exact countP_of_not_text (fun _ => rfl) _ _ _ _
  case through_finish =>
    rintro before closing after rfl ongoing finishes
    refine ofStatements_congr ?_ table options symbols program
    rw [closed after ongoing finishes, closed [] ongoing finishes]
  case without_finish =>
    rintro before closing after rfl ongoing finishes
    refine ofStatements_congr ?_ table options symbols program
    have whole := beforeFinish_append ongoing []
    rw [List.append_nil] at whole
    rw [closed after ongoing finishes, whole]
    exact (List.append_nil before).symm

end ObjectProgram

/-- An end directive closes the layout of any lines and the object program of any statements. -/
theorem finish_closes_program (table : OpcodeTable) (options : Options) :
    (∀ lines, Layout.ClosingLaw table options lines) ∧
      ∀ symbols program statements,
        ObjectProgram.ClosingLaw table options symbols program statements :=
  ⟨Layout.closingLaw table options, ObjectProgram.closingLaw table options⟩

/-- Behind the end directive stand a line that cannot be placed and a statement that emits nothing;
neither does any harm, and the text record that was begun before it is written. -/
theorem finish_closes_program_before_faults :
    let lines := ["P START 10", " RSUB", "END P", "X BAD", "END"]
    let program : Program := ⟨"P", 0x10, 3, true⟩
    let first : Statement := ⟨⟨none, "RSUB", none⟩, 2, 0x10, .instruction⟩
    let closing : Statement := ⟨⟨some "X", "END", none⟩, 3, 0x13, .finish⟩
    let faulty : Statement := ⟨⟨none, "BAD", none⟩, 4, 0x13, .instruction⟩
    (∃ layout, Layout.ofLines .sicMachine {} lines = .ok layout ∧
      layout.program.terminated = true ∧
      Layout.ofLines .sicMachine {} (["P START 10", " RSUB"] ++ ["END P"]) = .ok layout) ∧
    ∃ records, ObjectProgram.ofStatements .sicMachine {} .empty program
        [first, closing, faulty] = .ok records ∧
      ObjectProgram.ofStatements .sicMachine {} .empty program [first] = .ok records ∧
      records.countP ObjectRecord.isFinish = 1 ∧
      records = [.header "P" 0x10 3, .text ⟨0x10, [.instruction 0x4C 0x0000]⟩, .finish 0x10] := by
  intro lines program first closing faulty
  obtain ⟨layouts, programs⟩ := finish_closes_program .sicMachine {}
  constructor
  · refine exists_ok_and (fun _ => true) (by decide +kernel) fun layout laidOut _ => ?_
    have law := layouts lines
    refine ⟨(law.terminated_iff layout laidOut).mpr (by decide +kernel), ?_⟩
    rw [← law.through_end ["P START 10", " RSUB"] "END P" ["X BAD", "END"] rfl
      (by decide +kernel) (by decide +kernel)]
    exact laidOut
  · refine exists_ok_and
      (fun records => records =
        [.header "P" 0x10 3, .text ⟨0x10, [.instruction 0x4C 0x0000]⟩, .finish 0x10])
      (by decide +kernel) fun records built flushed => ?_
    have law := programs .empty program [first, closing, faulty]
    refine ⟨?_, law.finish_once records built, of_decide_eq_true flushed⟩
    rw [← law.without_finish [first] closing [faulty] rfl (by decide) rfl]
    exact built

end SicAssembler
