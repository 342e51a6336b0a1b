/-
This file proves that the sidecar of an assembly leads every row of the listing
back to the source line that it came from. Rows leave out blank lines, comments
and whatever stands behind the end of the program, so the place of a row says
nothing about the place of its line; the row keeps the number of the line, and
the line with that number has the fields of the statement. The sidecar quotes
it without the blanks at its end, which changes no field.

A sidecar is put together one line and one label at a time, and a label that is
added twice would replace what was there. The labels of an assembly are
distinct, so each is added at the end and none is lost. A label stands for the
address of the first statement that defines it, so a row lies at that address.
-/

import SicAssembler.Proofs.LocationCounter
import SicAssembler.Proofs.MemoryImage
import SicAssembler.Proofs.TrailingLayout

namespace SicAssembler

/-! ### Lines without the blanks at their end -/

/-- Whether a text is a line without the blanks at its end. -/
def IsTrimmed (line text : List Char) : Prop :=
  (∃ blanks, IsBlankText blanks ∧ line = text ++ blanks) ∧
    ∀ character ∈ text.getLast?, isBlank character = false

theorem isTrimmed_trimEnd (line : List Char) : IsTrimmed line (trimEnd line) := by
  constructor
  · refine ⟨(line.reverse.takeWhile isBlank).reverse, fun character member => ?_, ?_⟩
    · rw [List.mem_reverse] at member
      exact List.all_eq_true.mp List.all_takeWhile character member
    · rw [trimEnd, ← List.reverse_append, List.takeWhile_append_dropWhile, List.reverse_reverse]
  · intro character last
    have refused := List.head?_dropWhile_not isBlank line.reverse
    rw [trimEnd, List.getLast?_reverse] at last
    rw [Option.mem_def.mp last] at refused
    simpa using refused

/-- A line has the fields that it has without the blanks at its end. -/
theorem IsTrimmed.ofLine?_eq {line text : List Char} (trimmed : IsTrimmed line text)
    (style : FieldStyle) :
    Fields.ofLine? style (String.ofList text) = Fields.ofLine? style (String.ofList line) := by
  obtain ⟨⟨blanks, blank, rfl⟩, -⟩ := trimmed
  exact (Fields.ofLine?_append_blanks style blank text).symm

/-! ### Statements and their lines -/

theorem exists_line_of_mem_numberedFields {style : FieldStyle} {lines : List String} {number : Nat}
    {fields : Fields} (member : (number, fields) ∈ numberedFields style lines) :
    ∃ line, lines[number - 1]? = some line ∧ Fields.ofLine? style line = some fields := by
  obtain ⟨⟨line, position⟩, numbered, divided⟩ := List.mem_filterMap.mp member
  obtain ⟨found, has, same⟩ := Option.map_eq_some_iff.mp divided
  cases same
  exact ⟨line, (List.mk_mem_zipIdx_iff_le_and_getElem?_sub.mp numbered).2, has⟩

/-- Each statement of a layout has the fields of the line with its number. -/
theorem Layout.exists_line {table : OpcodeTable} {options : Options} {lines : List String}
    {layout : Layout} (laidOut : Layout.ofLines table options lines = .ok layout)
    {statement : Statement} (placed : statement ∈ layout.statements) :
    ∃ line, lines[statement.line - 1]? = some line ∧
      Fields.ofLine? options.fieldStyle line = some statement.toFields := by
  obtain ⟨found, walks, rfl⟩ := Layout.ofLines_eq_ok laidOut
  exact exists_line_of_mem_numberedFields
    ((walk_lines walks).subset (List.mem_map_of_mem placed))

/-! ### Sidecars put together -/

/-- Entries with distinct names are added one behind the other, also where a known name would be
replaced. -/
theorem Dictionary.entries_foldl_insert {Value : Type} (pairs : List (String × Value))
    (dictionary : Dictionary Value)
    (distinct : ((dictionary.entries ++ pairs).map Prod.fst).Nodup) :
    (pairs.foldl (fun found pair => found.insert pair.1 pair.2) dictionary).entries =
      dictionary.entries ++ pairs := by
  induction pairs generalizing dictionary with
  | nil => exact (List.append_nil _).symm
  | cons pair rest inductionHypothesis =>
    have added := entries_insert_of_not_contains pair.2 (not_contains_of_nodup distinct)
    rw [List.foldl_cons, inductionHypothesis, added, List.append_assoc, List.singleton_append]
    rw [added, List.append_assoc, List.singleton_append]
    exact distinct

namespace Sidecar

/-- The sidecar that is put together from lines and labels, one at a time. -/
def putTogether (name : String) (start length : Nat) (lines : List SidecarLine)
    (labels : List (String × Nat)) : Sidecar :=
  labels.foldl (fun sidecar entry => sidecar.setLabel entry.1 entry.2)
    (lines.foldl appendLine (.ofProgram name start length))

theorem foldl_appendLine (lines : List SidecarLine) (sidecar : Sidecar) :
    lines.foldl appendLine sidecar = { sidecar with lines := sidecar.lines ++ lines } := by
  induction lines generalizing sidecar with
  | nil => rw [List.foldl_nil, List.append_nil]
  | cons line rest inductionHypothesis =>
    rw [List.foldl_cons, inductionHypothesis, appendLine, List.append_assoc,
      List.singleton_append]

theorem foldl_setLabel (entries : List (String × Nat)) (sidecar : Sidecar) :
    entries.foldl (fun found entry => found.setLabel entry.1 entry.2) sidecar =
      { sidecar with
        labels := entries.foldl (fun found entry => found.insert entry.1 entry.2)
          sidecar.labels } := by
  induction entries generalizing sidecar with
  | nil => rfl
  | cons entry rest inductionHypothesis =>
    rw [List.foldl_cons, inductionHypothesis]
    rfl

/-- Nothing is lost when a sidecar is put together from the labels of a dictionary. -/
theorem putTogether_entries (name : String) (start length : Nat) (lines : List SidecarLine)
    (labels : Dictionary Nat) :
    putTogether name start length lines labels.entries = ⟨name, start, length, lines, labels⟩ := by
  have same : labels.entries.foldl (fun found entry => found.insert entry.1 entry.2) .empty =
      labels :=
    Dictionary.ext (Dictionary.entries_foldl_insert labels.entries .empty labels.distinct)
  rw [putTogether, foldl_appendLine, foldl_setLabel]
  simp only [ofProgram, same, List.nil_append]

end Sidecar

/-! ### The law -/

/-- Whether a row of a sidecar leads from a statement back to its source line. -/
structure SidecarLine.LeadsBack (style : FieldStyle) (lines : List String) (statement : Statement)
    (row : SidecarLine) : Prop where
  address : row.address = statement.address
  lineNumber : row.lineNumber = statement.line
  /-- The row quotes the line with its number, without the blanks at the end. -/
  quoted : ∃ line, lines[row.lineNumber - 1]? = some line ∧ IsTrimmed line.toList row.text.toList
  /-- What is quoted has the fields of the statement. -/
  divided : Fields.ofLine? style row.text = some statement.toFields

theorem Assembly.leadsBack_sidecarLine {style : FieldStyle} {lines : List String}
    {statement : Statement} {line : String} (numbered : lines[statement.line - 1]? = some line)
    (divided : Fields.ofLine? style line = some statement.toFields) :
    (sidecarLine lines statement).LeadsBack style lines statement := by
  have text : (sidecarLine lines statement).text = String.ofList (trimEnd line.toList) := by
    rw [sidecarLine, numbered]
    rfl
  have trimmed := isTrimmed_trimEnd line.toList
  refine ⟨rfl, rfl, ⟨line, numbered, ?_⟩, ?_⟩
  · rw [text, String.toList_ofList]
    exact trimmed
  · rw [text, trimmed.ofLine?_eq style, String.ofList_toList]
    exact divided

/-- The law of the sidecar of an assembly, for the lines of its source. -/
structure Assembly.SidecarLaw (assembly : Assembly) (style : FieldStyle) (lines : List String)
    (sidecar : Sidecar) : Prop where
  /-- There is one row for each statement, in order, which leads back to its line. -/
  rows : List.Forall₂ (SidecarLine.LeadsBack style lines) assembly.layout.statements sidecar.lines
  /-- The line numbers ascend. -/
  numbers_ascend : (sidecar.lines.map SidecarLine.lineNumber).Pairwise (· < ·)
  /-- The line numbers are those of lines of the source. -/
  numbers_within : ∀ row ∈ sidecar.lines, 1 ≤ row.lineNumber ∧ row.lineNumber ≤ lines.length
  /-- The labels are the symbols, in the order of their definition. -/
  labels : sidecar.labels.entries = assembly.layout.symbols.entries
  /-- Adding the rows and then the labels one by one gives this sidecar. -/
  built : sidecar = .putTogether sidecar.name sidecar.start sidecar.length sidecar.lines
    assembly.layout.symbols.entries
  /-- Name, start and length are those of the header. -/
  header : assembly.records.head? = some (.header sidecar.name sidecar.start sidecar.length)
  /-- The first row at the address of a label is found, and there is one. -/
  label_row : ∀ entry ∈ sidecar.labels.entries, ∃ before row after,
    sidecar.lines = before ++ row :: after ∧ row.address = entry.2 ∧
      (∀ earlier ∈ before, earlier.address ≠ entry.2) ∧
      sidecar.firstLineAt? entry.2 = some row

/-- A line at an address is found at the first place where there is one. -/
theorem Sidecar.exists_firstLineAt? {sidecar : Sidecar} {row : SidecarLine}
    (member : row ∈ sidecar.lines) :
    ∃ before first after, sidecar.lines = before ++ first :: after ∧
      first.address = row.address ∧ (∀ earlier ∈ before, earlier.address ≠ row.address) ∧
      sidecar.firstLineAt? row.address = some first := by
  have present : (sidecar.firstLineAt? row.address).isSome = true := by
    rw [firstLineAt?, List.find?_isSome]
    exact ⟨row, member, decide_eq_true rfl⟩
  obtain ⟨first, found⟩ := Option.isSome_iff_exists.mp present
  obtain ⟨here, before, after, parts, others⟩ := List.find?_eq_some_iff_append.mp found
  refine ⟨before, first, after, parts, of_decide_eq_true here, fun earlier inBefore => ?_, found⟩
  simpa using others earlier inBefore

/-- The sidecar of every assembly leads back to the source. -/
theorem assemble_sidecarLaw (table : OpcodeTable) (options : Options) (source : String)
    (assembly : Assembly) (assembled : assemble table options source = .ok assembly) :
    assembly.SidecarLaw options.fieldStyle (linesOf source) (assembly.sidecar source) := by
  obtain ⟨laidOut, built⟩ := assemble_eq_ok assembled
  obtain ⟨emissions, -, records⟩ := ObjectProgram.ofStatements_eq_ok built
  have numbers : (assembly.layout.statements.map Statement.line).Sublist
      (List.range' 1 (linesOf source).length) := by
    obtain ⟨found, walks, layout⟩ := Layout.ofLines_eq_ok laidOut
    rw [layout]
    exact walk_line_sublist walks
  have rowNumbers : (assembly.sidecar source).lines.map SidecarLine.lineNumber =
      assembly.layout.statements.map Statement.line := by
    show (assembly.layout.statements.map _).map _ = _
    rw [List.map_map]
    rfl
  constructor
  case rows =>
    show List.Forall₂ _ _ (assembly.layout.statements.map _)
    rw [List.forall₂_map_right_iff, List.forall₂_same]
    intro statement placed
    obtain ⟨line, numbered, divided⟩ := Layout.exists_line laidOut placed
    exact Assembly.leadsBack_sidecarLine numbered divided
  case numbers_ascend =>
    rw [rowNumbers]
    exact List.Pairwise.sublist numbers List.pairwise_lt_range'
  case numbers_within =>
    intro row member
    have number : row.lineNumber ∈ assembly.layout.statements.map Statement.line := by
      rw [← rowNumbers]
      exact List.mem_map_of_mem member
    have inRange := List.mem_range'_1.mp (numbers.subset number)
    omega
  case labels => rfl
  case built => exact (Sidecar.putTogether_entries _ _ _ _ _).symm
  case header =>
    rw [records]
    rfl
  case label_row =>
    intro entry member
    obtain ⟨statement, placed, same⟩ := Layout.exists_statement_of_mem_symbols laidOut member
    have row : Assembly.sidecarLine (linesOf source) statement ∈ (assembly.sidecar source).lines :=
      List.mem_map_of_mem placed
    rw [← same]
    exact Sidecar.exists_firstLineAt? row

/-- The law for a source with comments, blanks at the ends of its lines, a carriage return, a label
that is defined again and one on a row that shares its address with the row before. -/
theorem assemble_sidecarLaw_of_shared_address :
    let source := "P START 10\n. note\n\n RESB 0  \nA LDA A\t\r\nA RSUB\nEND P\nX LDA"
    ∃ assembly, assemble .sicMachine {} source = .ok assembly ∧
      assembly.SidecarLaw .columns (linesOf source) (assembly.sidecar source) ∧
      (assembly.sidecar source).lines.map SidecarLine.lineNumber = [1, 4, 5, 6, 7] := by
  intro source
  refine exists_ok_and
    (fun assembly => (assembly.sidecar source).lines.map SidecarLine.lineNumber = [1, 4, 5, 6, 7])
    (by decide +kernel) fun assembly assembled checked => ?_
  exact ⟨assemble_sidecarLaw .sicMachine {} source assembly assembled, of_decide_eq_true checked⟩

end SicAssembler
