/-
This file tells which object programs are written in the fixed format: a header
line, text lines and an end line, in which every address and length has exactly
six digits. Numbers are filled up to six digits, but a larger number takes more.

The start address has six digits, and so has a tracked address, since there is
a byte at it. Two numbers can outgrow their fields. The counter may come to rest
one past the last address, so a program that takes up all of the memory has a
length of seven digits; and addresses in fixed steps follow the number of
records, not their bytes, so they may leave the memory.
-/

import SicAssembler.Proofs.Addressing
import SicAssembler.Proofs.ObjectText

namespace SicAssembler

namespace RecordFormat

/-! ### The format -/

/-- Whether all characters of a text are digits of base sixteen, in upper case. -/
def IsDigits (text : List Char) : Prop := ∀ character ∈ text, character ∈ digitCharacters

/-- An address or a length. Its width is left open, so that what the format asks for can be
compared with what is written. -/
structure IsNumeral (Width : Nat → Prop) (text : List Char) : Prop where
  width : Width text.length
  digits : IsDigits text

/-- The bytes of a fragment: two digits for each of them, and at least one byte. -/
structure IsRun (text : List Char) : Prop where
  nonempty : text ≠ []
  even : 2 ∣ text.length
  digits : IsDigits text

/-- The fields of a header line. -/
inductive IsHeader (Width : Nat → Prop) : List (List Char) → Prop where
  | intro {start length : List Char} (startNumeral : IsNumeral Width start)
      (lengthNumeral : IsNumeral Width length) :
      IsHeader Width [['H'], "COPY".toList, start, length]

/-- The fields of a text line. -/
inductive IsText (Width : Nat → Prop) : List (List Char) → Prop where
  | intro {address : List Char} {runs : List (List Char)} (numeral : IsNumeral Width address)
      (nonempty : runs ≠ []) (each : ∀ run ∈ runs, IsRun run) :
      IsText Width (['T'] :: address :: runs)

/-- The fields of an end line. -/
inductive IsFinish (Width : Nat → Prop) : List (List Char) → Prop where
  | intro {start : List Char} (numeral : IsNumeral Width start) : IsFinish Width [['E'], start]

/-- The lines of an object program, each as its fields. -/
inductive IsProgram (Width : Nat → Prop) : List (List (List Char)) → Prop where
  | intro {header finish : List (List Char)} {texts : List (List (List Char))}
      (first : IsHeader Width header) (each : ∀ text ∈ texts, IsText Width text)
      (last : IsFinish Width finish) : IsProgram Width (header :: texts ++ [finish])

/-- The line with the given fields. -/
def lineOf (fields : List (List Char)) : List Char := ['^'].intercalate fields ++ ['\n']

/-- Whether a text is an object program in which numerals have an admitted width. -/
def Conforms (Width : Nat → Prop) (text : String) : Prop :=
  ∃ lines, IsProgram Width lines ∧ text.toList = lines.flatMap lineOf

/-! ### A text has its lines in one way only -/

variable {Width : Nat → Prop}

/-- Whether fields can be told apart again when they are written in a line. -/
structure Separable (fields : List (List Char)) : Prop where
  nonempty : fields ≠ []
  plain : ∀ field ∈ fields, '^' ∉ field ∧ '\n' ∉ field

theorem pieces_lines {lines : List (List (List Char))}
    (separable : ∀ fields ∈ lines, Separable fields) :
    (pieces (· = '\n') (lines.flatMap lineOf)).map (pieces (· = '^')) = lines ++ [[[]]] := by
  have ended : lines.flatMap lineOf =
      (lines.map ['^'].intercalate).flatMap fun line => line ++ ['\n'] := by
    rw [List.flatMap_map]
    rfl
  have plain : ∀ line ∈ lines.map ['^'].intercalate, '\n' ∉ line := by
    intro line member
    obtain ⟨fields, inLines, rfl⟩ := List.mem_map.mp member
    exact not_mem_intercalate (by decide) fun field member =>
      ((separable fields inLines).plain field member).2
  have cut : (lines.map ['^'].intercalate).map (pieces (· = '^')) = lines := by
    rw [List.map_map]
    refine (List.map_congr_left fun fields inLines => ?_).trans (List.map_id lines)
    exact pieces_intercalate (separable fields inLines).nonempty fun field member =>
      ((separable fields inLines).plain field member).1
  rw [ended, pieces_flatMap_ended plain, List.map_append, cut]
  rfl

theorem lines_unique {lines others : List (List (List Char))}
    (separable : ∀ fields ∈ lines, Separable fields)
    (otherSeparable : ∀ fields ∈ others, Separable fields)
    (same : lines.flatMap lineOf = others.flatMap lineOf) : lines = others := by
  have cut := pieces_lines separable
  rw [same, pieces_lines otherSeparable] at cut
  exact (List.append_cancel_right cut).symm

theorem IsDigits.plain {text : List Char} (digits : IsDigits text) :
    '^' ∉ text ∧ '\n' ∉ text :=
  ⟨fun member => absurd (digits _ member) (by decide), fun member =>
    absurd (digits _ member) (by decide)⟩

theorem IsProgram.separable {lines : List (List (List Char))}
    (program : IsProgram Width lines) : ∀ fields ∈ lines, Separable fields := by
  obtain ⟨⟨startNumeral, lengthNumeral⟩, each, ⟨finishNumeral⟩⟩ := program
  refine List.forall_mem_append.mpr ⟨List.forall_mem_cons.mpr ⟨?_, fun fields member => ?_⟩,
    List.forall_mem_singleton.mpr ?_⟩
  · refine ⟨List.cons_ne_nil _ _, ?_⟩
    simp only [List.forall_mem_cons]
    exact ⟨by decide, by decide, startNumeral.digits.plain, lengthNumeral.digits.plain,
      List.forall_mem_nil _⟩
  · obtain ⟨numeral, nonempty, runs⟩ := each fields member
    refine ⟨List.cons_ne_nil _ _, ?_⟩
    simp only [List.forall_mem_cons]
    exact ⟨by decide, numeral.digits.plain, fun run inRuns => (runs run inRuns).digits.plain⟩
  · refine ⟨List.cons_ne_nil _ _, ?_⟩
    simp only [List.forall_mem_cons]
    exact ⟨by decide, finishNumeral.digits.plain, List.forall_mem_nil _⟩

end RecordFormat

/-! ### Numbers in records -/

/-- Whether a text record has fragments, and each of them has bytes. -/
structure TextRecord.Filled (record : TextRecord) : Prop where
  nonempty : record.fragments ≠ []
  each : ∀ content ∈ record.fragments, 0 < content.size

namespace RecordFormat

variable {Width : Nat → Prop}

theorem isNumeral_sixDigits_iff {number : Nat} :
    IsNumeral Width (ObjectRecord.sixDigits number).toList ↔
      Width (ObjectRecord.sixDigits number).length := by
  rw [← String.length_toList]
  refine ⟨fun numeral => numeral.width, fun width => ⟨width, ?_⟩⟩
  rw [ObjectRecord.sixDigits, hexadecimalPadded, String.toList_ofList]
  exact Radix.mem_writePadded

theorem length_sixDigits (number : Nat) :
    (ObjectRecord.sixDigits number).length =
      (Radix.hexadecimal.writePadded 6 number).length := by
  rw [ObjectRecord.sixDigits, hexadecimalPadded, String.length_ofList]

/-- Six digits are enough for an address, and for nothing above. -/
theorem length_sixDigits_eq_iff (number : Nat) :
    (ObjectRecord.sixDigits number).length = 6 ↔ number < addressCount := by
  rw [length_sixDigits, Radix.length_writePadded_eq_iff Radix.hexadecimal 5 number]
  rfl

theorem six_le_length_sixDigits (number : Nat) : 6 ≤ (ObjectRecord.sixDigits number).length := by
  rw [length_sixDigits, Radix.length_writePadded]
  exact Nat.le_max_left _ _

theorem isRun_text {content : Fragment} (filled : 0 < content.size) :
    IsRun content.text.toList := by
  have length : content.text.toList.length = 2 * content.size := by
    rw [String.length_toList, content.length_text]
  refine ⟨fun empty => ?_, ⟨content.size, length⟩, Fragment.mem_text⟩
  rw [empty, List.length_nil] at length
  omega

theorem IsHeader.numerals {name start length : List Char}
    (header : IsHeader Width [['H'], name, start, length]) :
    IsNumeral Width start ∧ IsNumeral Width length := by
  obtain ⟨startNumeral, lengthNumeral⟩ := header
  exact ⟨startNumeral, lengthNumeral⟩

/-- A header is in the format exactly if its numbers have the width. -/
theorem isHeader_fields_iff {start length : Nat} :
    IsHeader Width (ObjectRecord.header programName start length).fields ↔
      Width (ObjectRecord.sixDigits start).length ∧
        Width (ObjectRecord.sixDigits length).length := by
  constructor
  · intro header
    obtain ⟨startNumeral, lengthNumeral⟩ := header.numerals
    exact ⟨isNumeral_sixDigits_iff.mp startNumeral, isNumeral_sixDigits_iff.mp lengthNumeral⟩
  · rintro ⟨startWidth, lengthWidth⟩
    exact .intro (isNumeral_sixDigits_iff.mpr startWidth) (isNumeral_sixDigits_iff.mpr lengthWidth)

theorem IsText.numeral {address : List Char} {runs : List (List Char)}
    (text : IsText Width (['T'] :: address :: runs)) : IsNumeral Width address := by
  obtain ⟨numeral, -, -⟩ := text
  exact numeral

theorem isText_fields_iff {record : TextRecord} (filled : record.Filled) :
    IsText Width (ObjectRecord.text record).fields ↔
      Width (ObjectRecord.sixDigits record.address).length := by
  constructor
  · intro text
    exact isNumeral_sixDigits_iff.mp text.numeral
  · intro width
    refine .intro (isNumeral_sixDigits_iff.mpr width) ?_ fun run member => ?_
    · exact fun empty => filled.nonempty (List.map_eq_nil_iff.mp empty)
    · obtain ⟨content, inRecord, rfl⟩ := List.mem_map.mp member
      exact isRun_text (filled.each content inRecord)

theorem isFinish_fields {start : Nat}
    (width : Width (ObjectRecord.sixDigits start).length) :
    IsFinish Width (ObjectRecord.finish start).fields :=
  .intro (isNumeral_sixDigits_iff.mpr width)

theorem toList_text_eq_lines (records : ObjectProgram) :
    records.text.toList = (records.map ObjectRecord.fields).flatMap lineOf := by
  rw [ObjectProgram.toList_text, List.flatMap_map, List.flatMap_map]
  refine congrArg (fun lines => records.flatMap lines) (funext fun record => ?_)
  rw [ObjectRecord.toList_line, lineOf]

theorem separable_fields {record : ObjectRecord} (carets : record.NameLacks '^')
    (lineFeeds : record.NameLacks '\n') : Separable record.fields where
  nonempty := record.fields_ne_nil
  plain := fun field member =>
    ⟨ObjectRecord.not_mem_of_mem_fields (by decide) (by decide) carets field member,
      ObjectRecord.not_mem_of_mem_fields (by decide) (by decide) lineFeeds field member⟩

/-- A text is in the format exactly if its records, field by field, are. -/
theorem conforms_text_iff {records : ObjectProgram}
    (carets : ∀ record ∈ records, record.NameLacks '^')
    (lineFeeds : ∀ record ∈ records, record.NameLacks '\n') :
    Conforms Width records.text ↔ IsProgram Width (records.map ObjectRecord.fields) := by
  constructor
  · rintro ⟨lines, program, same⟩
    have separable : ∀ fields ∈ records.map ObjectRecord.fields, Separable fields := by
      intro fields member
      obtain ⟨record, inRecords, rfl⟩ := List.mem_map.mp member
      exact separable_fields (carets record inRecords) (lineFeeds record inRecords)
    rw [toList_text_eq_lines] at same
    rw [lines_unique separable program.separable same]
    exact program
  · exact fun program => ⟨_, program, toList_text_eq_lines records⟩

/-- The records of a program are in the format exactly if their numbers have the width. -/
theorem isProgram_fields_iff {start length : Nat} {texts : List TextRecord}
    (filled : ∀ record ∈ texts, record.Filled) :
    IsProgram Width ((ObjectRecord.header programName start length :: texts.map .text ++
        [ObjectRecord.finish start]).map ObjectRecord.fields) ↔
      Width (ObjectRecord.sixDigits start).length ∧
        Width (ObjectRecord.sixDigits length).length ∧
        ∀ record ∈ texts, Width (ObjectRecord.sixDigits record.address).length := by
  constructor
  · intro program
    generalize lines : List.map _ _ = fields at program
    obtain ⟨first, each, last⟩ := program
    rw [List.map_append, List.map_cons] at lines
    -- One line comes last on both sides, so what stands before it is the same.
    obtain ⟨front, -⟩ := List.append_inj' lines rfl
    obtain ⟨rfl, rfl⟩ := List.cons.inj front
    obtain ⟨startWidth, lengthWidth⟩ := isHeader_fields_iff.mp first
    refine ⟨startWidth, lengthWidth, fun record member => ?_⟩
    have text := each (ObjectRecord.text record).fields
      (List.mem_map_of_mem (List.mem_map_of_mem member))
    exact (isText_fields_iff (filled record member)).mp text
  · rintro ⟨startWidth, lengthWidth, addressWidths⟩
    rw [List.map_append, List.map_cons, List.map_map]
    refine .intro (isHeader_fields_iff.mpr ⟨startWidth, lengthWidth⟩) (fun fields member => ?_)
      (isFinish_fields startWidth)
    obtain ⟨record, inTexts, rfl⟩ := List.mem_map.mp member
    exact (isText_fields_iff (filled record inTexts)).mpr (addressWidths record inTexts)

end RecordFormat

/-! ### Text records -/

/-- Fragments that have bytes are packed into records of such fragments. -/
theorem filled_of_mem_pack {emissions : List Emission}
    (filled : ∀ emission ∈ emissions, emission.Filled) :
    ∀ record ∈ pack none emissions, record.Filled := by
  have positive : ∀ record ∈ pack none emissions, 0 < record.size :=
    size_pos_of_mem_pack (fun _ absent => nomatch absent) filled
  intro record member
  refine ⟨TextRecord.fragments_ne_nil_of_size_pos (positive record member), ?_⟩
  intro content inRecord
  have packed : content ∈ (pack none emissions).flatMap TextRecord.fragments :=
    List.mem_flatMap.mpr ⟨record, member, inRecord⟩
  rw [flatMap_fragments_pack] at packed
  obtain ⟨emission, inEmissions, found⟩ := List.mem_filterMap.mp packed
  have bytes := filled emission inEmissions
  cases emission with
  | gap => cases found
  | fragment address other =>
    cases found
    exact bytes

theorem ObjectProgram.filled_of_mem_textRecords {addressing : RecordAddressing} {start : Nat}
    {emissions : List Emission} (filled : ∀ emission ∈ emissions, emission.Filled) :
    ∀ record ∈ textRecords addressing start emissions, record.Filled := by
  cases addressing with
  | tracked =>
    refine filled_of_mem_pack fun piece member => ?_
    obtain ⟨emission, inEmissions, inPieces⟩ := List.mem_flatMap.mp member
    exact filled_of_mem_cut (filled emission inEmissions) piece inPieces
  | fixedIncrement =>
    intro record member
    obtain ⟨index, bounded, rfl⟩ := List.mem_mapIdx.mp member
    have fragments : ∀ emission ∈ emissions.filter Emission.isFragment, emission.Filled :=
      fun emission member => filled emission (List.mem_of_mem_filter member)
    have packed := filled_of_mem_pack fragments _ (List.getElem_mem bounded)
    exact ⟨packed.nonempty, packed.each⟩

/-- A tracked record has a byte at its address, so there is such an address. -/
theorem Emitting.address_lt_of_mem_packTracked {table : OpcodeTable} {symbols : SymbolTable}
    {policy : Strictness} {last : Cursor} {statements : List Statement}
    {emissions : List Emission}
    (emitting : Emitting table symbols policy {} statements last emissions) :
    ∀ record ∈ packTracked emissions, record.address < addressCount := by
  intro record member
  have positive := size_pos_of_mem_packTracked emitting.filled record member
  rw [← record.length_toBytes] at positive
  have first : (record.address, record.toBytes.get ⟨0, positive⟩) ∈ record.image :=
    List.mem_mapIdx.mpr ⟨0, positive, rfl⟩
  have packed : (record.address, record.toBytes.get ⟨0, positive⟩) ∈
      (packTracked emissions).flatMap TextRecord.image :=
    List.mem_flatMap.mpr ⟨record, member, first⟩
  rw [flatMap_image_packTracked (emitting.contiguous fun _ absent => nomatch absent)] at packed
  exact emitting.image_lt _ packed

/-- Addresses in fixed steps do not pass the end of memory unseen: before they could wrap
around, one of them lies just behind it. -/
theorem steps_lt {start count : Nat} (begins : start < addressCount)
    (reduced : ∀ index < count, (start + recordStep * index) % addressWrap < addressCount) :
    ∀ index < count, start + recordStep * index < addressCount := by
  have room : addressCount + recordStep < addressWrap := by decide
  intro index
  induction index with
  | zero => exact fun _ => begins
  | succ index inductionHypothesis =>
    intro bounded
    -- The address before this one is in memory, so this one is below the wrap.
    have before := inductionHypothesis (Nat.lt_of_succ_lt bounded)
    have here := reduced (index + 1) bounded
    rw [Nat.mul_succ] at here ⊢
    rw [Nat.mod_eq_of_lt (by omega)] at here
    exact here

/-- The addresses in fixed steps stay in memory exactly if the last one does. -/
theorem address_lt_of_mem_packFixed_iff {start : Nat} {emissions : List Emission}
    (begins : start < addressCount) :
    (∀ record ∈ packFixed start emissions, record.address < addressCount) ↔
      start + recordStep * ((packFixed start emissions).length - 1) < addressCount := by
  have inside : addressCount < addressWrap := by decide
  have places : (∀ record ∈ packFixed start emissions, record.address < addressCount) ↔
      ∀ index < (packFixed start emissions).length,
        (start + recordStep * index) % addressWrap < addressCount := by
    rw [List.forall_mem_iff_forall_getElem]
    refine forall_congr' fun index => forall_congr' fun bounded => ?_
    simp only [packFixed, List.getElem_mapIdx]
  rw [places]
  constructor
  · intro reduced
    cases count : (packFixed start emissions).length with
    | zero => exact begins
    | succ last => exact steps_lt begins reduced last (by omega)
  · intro final index bounded
    have earlier : recordStep * index ≤ recordStep * ((packFixed start emissions).length - 1) :=
      Nat.mul_le_mul_left _ (by omega)
    rw [Nat.mod_eq_of_lt (by omega)]
    omega

/-! ### Assembled programs -/

namespace RecordFormat

variable {table : OpcodeTable} {options : Options} {source : String} {assembly : Assembly}

/-- The text of an assembled program is in the format exactly if its numbers have the width. -/
theorem conforms_objectText_iff {Width : Nat → Prop}
    (assembled : assemble table options source = .ok assembly) :
    Conforms Width assembly.objectText ↔
      Width (ObjectRecord.sixDigits assembly.layout.program.start).length ∧
        Width (ObjectRecord.sixDigits assembly.layout.program.length).length ∧
        ∀ record ∈ assembly.records.filterMap ObjectRecord.textRecord?,
          Width (ObjectRecord.sixDigits record.address).length := by
  obtain ⟨emissions, last, emitting, -, -, records⟩ := assemble_emitting assembled
  have filled : ∀ record ∈ ObjectProgram.textRecords options.addressing
      assembly.layout.program.start emissions, record.Filled :=
    ObjectProgram.filled_of_mem_textRecords emitting.filled
  refine (conforms_text_iff (assemble_nameLacks assembled (by decide))
    (assemble_nameLacks assembled (by decide))).trans ?_
  rw [records, ObjectProgram.filterMap_textRecord?]
  exact isProgram_fields_iff filled

theorem start_lt_addressCount (assembled : assemble table options source = .ok assembly) :
    assembly.layout.program.start < addressCount := by
  obtain ⟨emissions, last, emitting, start, -, -⟩ := assemble_emitting assembled
  obtain ⟨terminated, traces⟩ := emitting.traces
  rw [start]
  exact traces.start_lt (by decide)

/-- The text records of an assembled program lie in memory, unless the last of the addresses in
fixed steps does not. -/
theorem address_lt_iff (assembled : assemble table options source = .ok assembly) :
    (∀ record ∈ assembly.records.filterMap ObjectRecord.textRecord?,
        record.address < addressCount) ↔
      (options.addressing = .fixedIncrement →
        assembly.layout.program.start + recordStep *
          ((assembly.records.filterMap ObjectRecord.textRecord?).length - 1) < addressCount) := by
  have begins := start_lt_addressCount assembled
  obtain ⟨emissions, last, emitting, -, -, records⟩ := assemble_emitting assembled
  rw [records, ObjectProgram.filterMap_textRecord?]
  cases options.addressing with
  | tracked =>
    refine iff_of_true emitting.address_lt_of_mem_packTracked fun fixed => ?_
    cases fixed
  | fixedIncrement =>
    rw [forall_prop_of_true rfl]
    exact address_lt_of_mem_packFixed_iff begins

theorem length_lt_of_conforms (assembled : assemble table options source = .ok assembly)
    (conforms : Conforms (· = 6) assembly.objectText) :
    assembly.layout.program.length < addressCount :=
  (length_sixDigits_eq_iff _).mp ((conforms_objectText_iff assembled).mp conforms).2.1

end RecordFormat

/-- The text of an assembled program is a header line, text lines and an end line, and each number
in it has at least six digits. No number has more of them exactly if the length is below the
number of addresses and, under addresses in fixed steps, so is the last address. -/
theorem assemble_conforms (table : OpcodeTable) (options : Options) (source : String)
    (assembly : Assembly) (assembled : assemble table options source = .ok assembly) :
    RecordFormat.Conforms (6 ≤ ·) assembly.objectText ∧
    (RecordFormat.Conforms (· = 6) assembly.objectText ↔
      assembly.layout.program.length < addressCount ∧
      (options.addressing = .fixedIncrement →
        assembly.layout.program.start + recordStep *
          ((assembly.records.filterMap ObjectRecord.textRecord?).length - 1) < addressCount)) := by
  constructor
  · refine (RecordFormat.conforms_objectText_iff assembled).mpr ⟨?_, ?_, fun record _ => ?_⟩ <;>
      exact RecordFormat.six_le_length_sixDigits _
  · have begins := RecordFormat.start_lt_addressCount assembled
    rw [RecordFormat.conforms_objectText_iff assembled, ← RecordFormat.address_lt_iff assembled]
    simp only [RecordFormat.length_sixDigits_eq_iff, begins, true_and]

/-- Two records in fixed steps from the last address on: the second has seven digits. -/
theorem assemble_conforms_beyond_memory :
    ∃ assembly, assemble .sicMachine { addressing := .fixedIncrement }
        " BYTE C'ABCDEFGHIJKLMNOPQRSTUVWXYZ01234'\n RSUB\nP START FFFFFF\n END\n" =
          .ok assembly ∧
      RecordFormat.Conforms (6 ≤ ·) assembly.objectText ∧
      ¬ RecordFormat.Conforms (· = 6) assembly.objectText := by
  refine exists_ok_and (fun assembly => assembly.layout.program.start = 0xFFFFFF &&
    (assembly.records.filterMap ObjectRecord.textRecord?).length = 2) (by decide +kernel) ?_
  intro assembly assembled found
  obtain ⟨atLeast, exactly⟩ := assemble_conforms _ _ _ _ assembled
  refine ⟨atLeast, fun conforms => ?_⟩
  have inside := (exactly.mp conforms).2 rfl
  simp only [Bool.and_eq_true, decide_eq_true_eq] at found
  rw [found.1, found.2] at inside
  exact absurd inside (by decide)

/-- A program that takes up all of the memory has a length of seven digits. -/
theorem length_outgrows_field :
    ∃ assembly, assemble .sicMachine {} " RESB 16777216\n END\n" = .ok assembly ∧
      assembly.records = [.header "COPY" 0 0x1000000, .finish 0] ∧
      ¬ RecordFormat.Conforms (· = 6) assembly.objectText := by
  refine exists_ok_and (fun assembly => assembly.layout.program.length = addressCount &&
    assembly.records = [.header "COPY" 0 0x1000000, .finish 0]) (by decide +kernel) ?_
  intro assembly assembled found
  simp only [Bool.and_eq_true, decide_eq_true_eq] at found
  refine ⟨found.2, fun conforms => ?_⟩
  have inside := RecordFormat.length_lt_of_conforms assembled conforms
  rw [found.1] at inside
  exact Nat.lt_irrefl _ inside

end SicAssembler
