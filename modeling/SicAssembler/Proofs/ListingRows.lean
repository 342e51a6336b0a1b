/-
This file proves that the listing of a layout is a faithful table of its
statements. The fields of a line are tokens of it, so they hold no blank, and a
row cut at its tabs falls into its four columns again. There are three kinds of
rows, which no label and no operand can confuse: the third column is always the
mnemonic, and it tells the operation, since no opcode table can take the name of
a directive away from it.

A listing therefore tells two layouts apart unless their statements agree in
order, up to their line numbers, in all that it shows. It shows a hyphen for a
field that is absent, and leaves out the operand of an end directive; the
address of a start directive is the number in its operand.
-/

import SicAssembler.Proofs.ConsultedEntries
import SicAssembler.Proofs.NumeralGrammar
import SicAssembler.Proofs.SidecarRows

namespace SicAssembler

/-! ### Fields without blanks -/

/-- Whether a text holds no blank. -/
def Unbroken (text : String) : Prop :=
  ∀ character ∈ text.toList, isBlank character = false

instance : DecidablePred Unbroken := fun text =>
  List.decidableBAll (fun character => isBlank character = false) text.toList

namespace Fields

/-- The fields that are present. -/
def texts (fields : Fields) : List String :=
  fields.label?.toList ++ fields.mnemonic :: fields.operand?.toList

theorem mem_of_mem_texts_ofTokens (indented : Bool) (first : List Char)
    (rest : List (List Char)) :
    ∀ text ∈ (ofTokens indented first rest).texts, text.toList ∈ first :: rest := by
  match rest with
  | [] => simp [ofTokens, texts]
  | [second] => cases indented <;> simp [ofTokens, texts]
  | second :: third :: later => cases indented <;> simp [ofTokens, texts]

theorem mem_of_mem_texts_byPosition (first : List Char) (rest : List (List Char)) :
    ∀ text ∈ (byPosition first rest).texts, text.toList ∈ first :: rest := by
  match rest with
  | [] => simp [byPosition, texts]
  | [second] => simp [byPosition, texts]
  | second :: third :: later => simp [byPosition, texts]

/-- The fields of a line are tokens of it, under either style. -/
theorem mem_tokens_of_mem_texts {style : FieldStyle} {line : String} {fields : Fields}
    (divided : ofLine? style line = some fields) :
    ∀ text ∈ fields.texts, text.toList ∈ tokens line.toList := by
  rw [ofLine?_eq_ofTokens?] at divided
  cases found : tokens line.toList with
  | nil =>
    rw [found] at divided
    cases divided
  | cons first rest =>
    rw [found] at divided
    unfold ofTokens? at divided
    dsimp only at divided
    split at divided
    · cases divided
    · split at divided
      · next ends =>
        cases divided
        subst ends
        cases rest <;> simp [texts]
      · cases style with
        | columns =>
          cases divided
          exact mem_of_mem_texts_ofTokens _ first rest
        | positional =>
          cases divided
          exact mem_of_mem_texts_byPosition first rest

theorem unbroken_of_mem_texts {style : FieldStyle} {line : String} {fields : Fields}
    (divided : ofLine? style line = some fields) : ∀ text ∈ fields.texts, Unbroken text := by
  intro text member character inside
  exact isBlank_eq_false_of_mem_tokens (mem_tokens_of_mem_texts divided text member) inside

end Fields

/-! ### Statements -/

/-- A mnemonic stands for at most one operation, whatever the opcode tables hold. -/
theorem Operation.ofMnemonic?_unique {table other : OpcodeTable} {mnemonic : String}
    {operation another : Operation} (classified : ofMnemonic? table mnemonic = some operation)
    (again : ofMnemonic? other mnemonic = some another) : operation = another := by
  by_cases reserved : Reserved mnemonic
  · obtain ⟨known, -, stands⟩ := ofMnemonic?_of_reserved reserved
    rw [stands] at classified again
    exact Option.some.inj (classified.symm.trans again)
  · rw [ofMnemonic?_of_not_reserved reserved] at classified again
    split at classified
    · split at again
      · exact Option.some.inj (classified.symm.trans again)
      · cases again
    · cases classified

namespace Statement

/-- What the listing relies on in a statement. -/
structure Listable (statement : Statement) : Prop where
  /-- The fields hold no blank. -/
  unbroken : ∀ text ∈ statement.texts, Unbroken text
  /-- The mnemonic stands for the operation, under some opcode table. -/
  classified : ∃ table, Operation.ofMnemonic? table statement.mnemonic = some statement.operation
  /-- A start directive stands at the number in its operand. -/
  start_named : statement.operation = .start →
    ∃ operand, statement.operand? = some operand ∧
      Radix.hexadecimal.readBelow? wordValues operand.toList = some statement.address
  /-- An end directive has no label. -/
  finish_unlabelled : statement.operation = .finish → statement.label? = none

end Statement

theorem Traces.finish_unlabelled {cursor last : Cursor} {statements : List Statement}
    {terminated : Bool} (traces : Traces cursor statements last terminated) :
    ∀ statement ∈ statements, statement.operation = .finish → statement.label? = none :=
  traces.forall_mem (fun _ _ closes _ => closes.unlabelled)
    fun _ _ _ moves finishes => absurd finishes moves.continues

theorem Layout.listable_of_mem {table : OpcodeTable} {options : Options} {lines : List String}
    {layout : Layout} (laidOut : Layout.ofLines table options lines = .ok layout) :
    ∀ statement ∈ layout.statements, statement.Listable := by
  intro statement member
  obtain ⟨line, -, divided⟩ := Layout.exists_line laidOut member
  obtain ⟨found, walks, rfl⟩ := Layout.ofLines_eq_ok laidOut
  have traces := walk_traces walks
  constructor
  case unbroken => exact Fields.unbroken_of_mem_texts divided
  case classified => exact ⟨table, walk_classified walks statement member⟩
  case start_named =>
    intro begins
    exact Statement.number_eq_ok_iff.mp (traces.start_named statement member begins)
  case finish_unlabelled => exact traces.finish_unlabelled statement member

/-! ### Columns -/

/-- The digits that are written for a number denote it. -/
theorem denotes_hexadecimal (number : Nat) :
    Radix.hexadecimal.Denotes (hexadecimal number).toList number := by
  rw [hexadecimal, String.toList_ofList]
  exact Radix.hexadecimal.denotes_write number

theorem hexadecimal_injective {number other : Nat}
    (same : hexadecimal number = hexadecimal other) : number = other := by
  have denotes := denotes_hexadecimal number
  rw [same] at denotes
  exact denotes.unique (denotes_hexadecimal other)

theorem unbroken_hexadecimal (number : Nat) : Unbroken (hexadecimal number) := by
  have digits : Unbroken (String.ofList digitCharacters) := by decide
  intro character member
  rw [hexadecimal, String.toList_ofList, ← Radix.writePadded_zero] at member
  refine digits character ?_
  rw [String.toList_ofList]
  exact Radix.mem_writePadded character member

namespace Statement

/-- The columns in which the listing shows a statement. -/
inductive Shows (statement : Statement) : List String → Prop where
  /-- A start directive shows no address, but the number in its operand is its address. -/
  | start {operand : String} (begins : statement.operation = .start)
      (present : statement.operand? = some operand)
      (named : Radix.hexadecimal.readBelow? wordValues operand.toList = some statement.address) :
      Shows statement ["-", statement.label?.getD "-", "START", operand]
  /-- An end directive shows its address and nothing else. -/
  | finish (closes : statement.operation = .finish) :
      Shows statement [hexadecimal statement.address, "-", "END", "-"]
  /-- Any other statement shows its address and its fields. -/
  | ordinary (resumes : statement.operation ≠ .start) (continues : statement.operation ≠ .finish) :
      Shows statement
        [hexadecimal statement.address, statement.label?.getD "-", statement.mnemonic,
          statement.operand?.getD "-"]

/-- The row of a statement is its columns, joined by tabs. -/
theorem Listable.exists_shows {statement : Statement} (listable : statement.Listable) :
    ∃ columns, statement.Shows columns ∧ statement.row = tabbed columns := by
  obtain ⟨table, classified⟩ := listable.classified
  by_cases begins : statement.operation = .start
  · obtain ⟨operand, present, named⟩ := listable.start_named begins
    refine ⟨_, .start begins present named, ?_⟩
    rw [row, begins, present, (Operation.name_of_ofMnemonic? classified).1 begins]
    rfl
  · by_cases closes : statement.operation = .finish
    · refine ⟨_, .finish closes, ?_⟩
      rw [row, closes]
      rfl
    · refine ⟨_, .ordinary begins closes, ?_⟩
      rw [row]
      split
      · contradiction
      · contradiction
      · rfl

theorem Shows.length {statement : Statement} {columns : List String}
    (shows : statement.Shows columns) : columns.length = 4 := by
  cases shows <;> rfl

theorem Listable.unbroken_getD {statement : Statement} (listable : statement.Listable) :
    Unbroken (statement.label?.getD "-") ∧ Unbroken statement.mnemonic ∧
      Unbroken (statement.operand?.getD "-") := by
  have absent : Unbroken "-" := by decide
  have fields := listable.unbroken
  refine ⟨?_, fields _ (by simp [Fields.texts]), ?_⟩
  · cases label : statement.label? with
    | none => exact absent
    | some text => exact fields text (by simp [Fields.texts, label])
  · cases operand : statement.operand? with
    | none => exact absent
    | some text => exact fields text (by simp [Fields.texts, operand])

/-- No column holds a blank. -/
theorem Shows.unbroken {statement : Statement} {columns : List String}
    (shows : statement.Shows columns) (listable : statement.Listable) :
    ∀ column ∈ columns, Unbroken column := by
  have fixed : Unbroken "-" ∧ Unbroken "START" ∧ Unbroken "END" := by decide
  obtain ⟨absent, start, finish⟩ := fixed
  obtain ⟨label, mnemonic, operand⟩ := listable.unbroken_getD
  have address := unbroken_hexadecimal statement.address
  cases shows with
  | start begins present named =>
    rw [present, Option.getD_some] at operand
    simp [absent, label, start, operand]
  | finish closes => simp [address, absent, finish]
  | ordinary resumes continues => simp [address, label, mnemonic, operand]

end Statement

/-! ### Rows -/

theorem map_toList_injective : Function.Injective (List.map String.toList) :=
  List.map_injective_iff.mpr fun _ _ => String.toList_injective

namespace Statement

theorem toList_tabbed (columns : List String) :
    (tabbed columns).toList = ['\t'].intercalate (columns.map String.toList) :=
  String.toList_intercalate

theorem not_mem_of_unbroken {columns : List String}
    (unbroken : ∀ column ∈ columns, Unbroken column) {mark : Char} (blank : isBlank mark = true) :
    ∀ column ∈ columns.map String.toList, mark ∉ column := by
  intro column member inside
  obtain ⟨text, listed, rfl⟩ := List.mem_map.mp member
  exact Bool.false_ne_true ((unbroken text listed mark inside).symm.trans blank)

/-- Columns without blanks are found again in their row. -/
theorem pieces_tabbed {columns : List String} (nonempty : columns ≠ [])
    (unbroken : ∀ column ∈ columns, Unbroken column) :
    pieces (· = '\t') (tabbed columns).toList = columns.map String.toList := by
  rw [toList_tabbed]
  exact pieces_intercalate (by simpa using nonempty) (not_mem_of_unbroken unbroken (by decide))

/-- A row that is read as the listing is meant: three tabs and no other blank, and between the
tabs the columns of the statement. -/
structure IsListedBy (statement : Statement) (row : List Char) : Prop where
  columns : ∃ columns, statement.Shows columns ∧
    pieces (· = '\t') row = columns.map String.toList
  tabs : row.count '\t' = 3
  no_other_blank : ∀ character ∈ row, isBlank character = true → character = '\t'

theorem Listable.isListedBy_row {statement : Statement} (listable : statement.Listable) :
    statement.IsListedBy statement.row.toList := by
  obtain ⟨columns, shows, row⟩ := listable.exists_shows
  have unbroken := shows.unbroken listable
  have nonempty : columns ≠ [] := List.ne_nil_of_length_eq_add_one shows.length
  rw [row]
  constructor
  case columns => exact ⟨columns, shows, pieces_tabbed nonempty unbroken⟩
  case tabs =>
    rw [toList_tabbed, count_intercalate (not_mem_of_unbroken unbroken (by decide)),
      List.length_map, shows.length]
  case no_other_blank =>
    intro character member blank
    by_contra other
    rw [toList_tabbed] at member
    exact not_mem_intercalate other (not_mem_of_unbroken unbroken blank) member

theorem IsListedBy.not_mem_newline {statement : Statement} {row : List Char}
    (listed : statement.IsListedBy row) : '\n' ∉ row := by
  intro member
  exact absurd (listed.no_other_blank '\n' member (by decide)) (by decide)

/-! ### Rows that are the same -/

/-- Whether two statements agree, up to their line numbers, in what the listing shows: a hyphen
stands for an absent field, and the operand of an end directive is not shown. -/
structure Alike (statement other : Statement) : Prop where
  operation : statement.operation = other.operation
  address : statement.address = other.address
  mnemonic : statement.mnemonic = other.mnemonic
  label : statement.label?.getD "-" = other.label?.getD "-"
  operand : statement.operation ≠ .finish →
    statement.operand?.getD "-" = other.operand?.getD "-"

theorem Alike.row_eq {statement other : Statement} (alike : statement.Alike other) :
    statement.row = other.row := by
  unfold row absentText
  rw [alike.operation, alike.address, alike.label, alike.mnemonic]
  by_cases closes : other.operation = .finish
  · rw [closes]
  · rw [alike.operand (alike.operation ▸ closes)]

/-- The third column is the mnemonic in each kind of row. -/
theorem Shows.third {statement : Statement} {columns : List String}
    (shows : statement.Shows columns) (listable : statement.Listable) :
    columns[2]? = some statement.mnemonic := by
  obtain ⟨table, classified⟩ := listable.classified
  obtain ⟨start, finish⟩ := Operation.name_of_ofMnemonic? classified
  cases shows with
  | start begins present named => rw [start begins]; rfl
  | finish closes => rw [finish closes]; rfl
  | ordinary resumes continues => rfl

/-- Statements that show the same columns agree in them. -/
theorem Shows.alike {statement other : Statement} {columns others : List String}
    (shows : statement.Shows columns) (listable : statement.Listable)
    (showsToo : other.Shows others) (listableToo : other.Listable) (same : columns = others) :
    statement.Alike other := by
  have mnemonic : statement.mnemonic = other.mnemonic := by
    have third := shows.third listable
    rw [same, showsToo.third listableToo] at third
    exact (Option.some.inj third).symm
  -- The mnemonic tells the operation, so the two rows are of one kind.
  have operation : statement.operation = other.operation := by
    obtain ⟨table, classified⟩ := listable.classified
    obtain ⟨another, classifiedToo⟩ := listableToo.classified
    rw [mnemonic] at classified
    exact Operation.ofMnemonic?_unique classified classifiedToo
  cases shows with
  | start begins present named =>
    cases showsToo with
    | start _ presentToo namedToo =>
      simp only [List.cons.injEq, true_and, and_true] at same
      obtain ⟨label, operand⟩ := same
      rw [operand, namedToo] at named
      refine ⟨operation, (Option.some.inj named).symm, mnemonic, label, fun _ => ?_⟩
      rw [present, presentToo, operand]
    | finish closes => exact nomatch begins.symm.trans (operation.trans closes)
    | ordinary resumes _ => exact absurd (operation.symm.trans begins) resumes
  | finish closes =>
    cases showsToo with
    | start begins _ _ => exact nomatch closes.symm.trans (operation.trans begins)
    | finish closesToo =>
      simp only [List.cons.injEq, and_true] at same
      refine ⟨operation, hexadecimal_injective same, mnemonic, ?_, absurd closes⟩
      rw [listable.finish_unlabelled closes, listableToo.finish_unlabelled closesToo]
    | ordinary _ continues => exact absurd (operation.symm.trans closes) continues
  | ordinary resumes continues =>
    cases showsToo with
    | start begins _ _ => exact absurd (operation.trans begins) resumes
    | finish closes => exact absurd (operation.trans closes) continues
    | ordinary _ _ =>
      simp only [List.cons.injEq, and_true] at same
      obtain ⟨address, label, -, operand⟩ := same
      exact ⟨operation, hexadecimal_injective address, mnemonic, label, fun _ => operand⟩

/-- Rows are the same exactly for statements that agree in what is shown. -/
theorem Listable.row_eq_iff {statement other : Statement} (listable : statement.Listable)
    (listableToo : other.Listable) : statement.row = other.row ↔ statement.Alike other := by
  refine ⟨fun same => ?_, Alike.row_eq⟩
  obtain ⟨columns, shows, row⟩ := listable.exists_shows
  obtain ⟨others, showsToo, rowToo⟩ := listableToo.exists_shows
  refine shows.alike listable showsToo listableToo ?_
  have cut := pieces_tabbed (List.ne_nil_of_length_eq_add_one shows.length)
    (shows.unbroken listable)
  have cutToo := pieces_tabbed (List.ne_nil_of_length_eq_add_one showsToo.length)
    (showsToo.unbroken listableToo)
  rw [← row, same, rowToo, cutToo] at cut
  exact (map_toList_injective cut).symm

theorem map_row_eq_iff {statements others : List Statement}
    (listable : ∀ statement ∈ statements, statement.Listable)
    (listableToo : ∀ other ∈ others, other.Listable) :
    statements.map row = others.map row ↔ List.Forall₂ Alike statements others := by
  induction statements generalizing others with
  | nil =>
    rw [List.map_nil, List.forall₂_nil_left_iff, eq_comm, List.map_eq_nil_iff]
  | cons statement rest inductionHypothesis =>
    cases others with
    | nil => simp
    | cons other later =>
      obtain ⟨first, behind⟩ := List.forall_mem_cons.mp listable
      obtain ⟨firstToo, behindToo⟩ := List.forall_mem_cons.mp listableToo
      rw [List.map_cons, List.map_cons, List.cons.injEq, List.forall₂_cons,
        first.row_eq_iff firstToo, inductionHypothesis behind behindToo]

end Statement

/-! ### The listing -/

namespace Layout

theorem toList_listing (layout : Layout) :
    layout.listing.toList =
      ((layout.statements.map Statement.row).map String.toList).flatMap
        fun row => row ++ ['\n'] := by
  rw [listing, String.toList_join, List.flatMap_map, List.flatMap_map, List.flatMap_map]
  refine congrArg (fun write => layout.statements.flatMap write) (funext fun statement => ?_)
  exact String.toList_append

/-- The rows are found again in the listing. -/
theorem pieces_listing {layout : Layout}
    (listable : ∀ statement ∈ layout.statements, statement.Listable) :
    pieces (· = '\n') layout.listing.toList =
      (layout.statements.map Statement.row).map String.toList ++ [[]] := by
  rw [toList_listing]
  refine pieces_flatMap_ended fun row member => ?_
  rw [List.map_map] at member
  obtain ⟨statement, placed, rfl⟩ := List.mem_map.mp member
  exact (listable statement placed).isListedBy_row.not_mem_newline

theorem listing_eq_iff {layout other : Layout}
    (listable : ∀ statement ∈ layout.statements, statement.Listable)
    (listableToo : ∀ statement ∈ other.statements, statement.Listable) :
    layout.listing = other.listing ↔
      layout.statements.map Statement.row = other.statements.map Statement.row := by
  constructor
  · intro same
    have cut := pieces_listing listable
    rw [same, pieces_listing listableToo] at cut
    exact (map_toList_injective (List.append_cancel_right cut)).symm
  · intro same
    refine String.toList_injective ?_
    rw [toList_listing, toList_listing, same]

/-- The law of the listing of a layout. -/
structure ListingLaw (layout : Layout) : Prop where
  /-- There is one row for each statement, in order, and a newline behind each row. -/
  rows : ∃ rows, List.Forall₂ Statement.IsListedBy layout.statements rows ∧
    layout.listing.toList = rows.flatMap fun row => row ++ ['\n']
  /-- A layout of any lines, under any table and options, has the same listing exactly if its
  statements agree with these in what is shown. -/
  same_iff : ∀ table options lines other, Layout.ofLines table options lines = .ok other →
    (layout.listing = other.listing ↔
      List.Forall₂ Statement.Alike layout.statements other.statements)

/-- Every layout is listed faithfully. -/
theorem ofLines_listingLaw (table : OpcodeTable) (options : Options) (lines : List String)
    (layout : Layout) (laidOut : Layout.ofLines table options lines = .ok layout) :
    layout.ListingLaw := by
  have listable := Layout.listable_of_mem laidOut
  constructor
  case rows =>
    refine ⟨_, ?_, layout.toList_listing⟩
    rw [List.map_map, List.forall₂_map_right_iff, List.forall₂_same]
    exact fun statement member => (listable statement member).isListedBy_row
  case same_iff =>
    intro otherTable otherOptions otherLines other laidOutToo
    have listableToo := Layout.listable_of_mem laidOutToo
    rw [listing_eq_iff listable listableToo, Statement.map_row_eq_iff listable listableToo]

/-- A hyphen in the source is shown like an absent field, and an end directive like one without
an operand; all the rest of two layouts with one listing agrees. -/
theorem listingLaw_of_hyphens :
    ∃ layout, Layout.ofLines .sicMachine {} ["P START +1f", "A LDA -", " RSUB", "END P"] =
        .ok layout ∧
      layout.ListingLaw ∧
      layout.listing = "-\tP\tSTART\t+1f\n1F\tA\tLDA\t-\n22\t-\tRSUB\t-\n25\t-\tEND\t-\n" ∧
      ∃ other, Layout.ofLines .sicMachine { fieldStyle := .positional }
          ["", "P START +1f", "A LDA -", "RSUB -", " END"] = .ok other ∧
        List.Forall₂ Statement.Alike layout.statements other.statements := by
  let text := "-\tP\tSTART\t+1f\n1F\tA\tLDA\t-\n22\t-\tRSUB\t-\n25\t-\tEND\t-\n"
  refine exists_ok_and (fun layout => layout.listing = text) (by decide +kernel)
    fun layout laidOut shown => ?_
  have law := ofLines_listingLaw .sicMachine {} _ layout laidOut
  refine ⟨law, of_decide_eq_true shown, ?_⟩
  refine exists_ok_and (fun other => other.listing = text) (by decide +kernel)
    fun other laidOutToo shownToo => ?_
  refine (law.same_iff .sicMachine _ _ other laidOutToo).mp ?_
  exact (of_decide_eq_true shown).trans (of_decide_eq_true shownToo).symm

end Layout

end SicAssembler
