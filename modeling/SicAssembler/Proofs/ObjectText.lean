/-
This file proves that the text of an object program can be decoded without
loss. A reader cuts the text at line feeds and each line at carets, reads the
numbers in base sixteen and the fragments two digits a byte. Numbers have at
least six digits but may have more, fragments have any length, and there may be
any number of them; the text is still unambiguous, since neither a numeral nor a
fragment holds a caret or a line feed. What is lost is only how the bytes of a
fragment came about.
-/

import SicAssembler.Proofs.MemoryImage
import SicAssembler.Proofs.Numeral

namespace SicAssembler

/-! ### The reader -/

/-- A record as a loader knows it: for each fragment of a text record it has the bytes. -/
inductive LoadRecord where
  | header (name : String) (start length : Nat)
  | text (address : Nat) (fragments : List (List UInt8))
  | finish (start : Nat)
deriving DecidableEq, Repr

namespace LoadRecord

/-- The bytes that digits denote, two digits for each byte. -/
def readBytes? : List Char → Option (List UInt8)
  | [] => some []
  | [_] => none
  | high :: low :: rest => do
    let byte ← Radix.hexadecimal.read? [high, low]
    let later ← readBytes? rest
    return UInt8.ofNat byte :: later

/-- The record with the given fields. -/
def ofFields? : List (List Char) → Option LoadRecord
  | [['H'], name, start, length] => do
    let first ← Radix.hexadecimal.read? start
    let size ← Radix.hexadecimal.read? length
    return .header (String.ofList name) first size
  | ['T'] :: address :: fragments => do
    let first ← Radix.hexadecimal.read? address
    let bytes ← fragments.mapM readBytes?
    return .text first bytes
  | [['E'], start] => (Radix.hexadecimal.read? start).map .finish
  | _ => none

/-- The records of a text in which a line feed ends each line. -/
def ofText? (text : String) : Option (List LoadRecord) :=
  let lines := pieces (· = '\n') text.toList
  if lines.getLast? = some [] then
    lines.dropLast.mapM fun line => ofFields? (pieces (· = '^') line)
  else none

end LoadRecord

/-- The bytes of a fragment as a loader places them in memory. -/
def Fragment.loaded : Fragment → List UInt8
  | .instruction opcode address => opcode :: bigEndian 2 address.toNat
  | .bytes data => data
  | .word value => bigEndian 3 (value.toNat % 0x1000000)

/-- The record as a loader knows it. -/
def ObjectRecord.loaded : ObjectRecord → LoadRecord
  | .header name start length => .header name start length
  | .text record => .text record.address (record.fragments.map Fragment.loaded)
  | .finish start => .finish start

/-! ### Cutting a text -/

theorem refused_of_not_mem {mark : Char} {text : List Char} (plain : mark ∉ text) :
    ∀ character ∈ text, decide (character = mark) = false := by
  intro character member
  refine decide_eq_false fun same => plain ?_
  rw [← same]
  exact member

/-- Fields joined by a mark that none of them holds are found again. -/
theorem pieces_intercalate {mark : Char} {fields : List (List Char)} (nonempty : fields ≠ [])
    (plain : ∀ field ∈ fields, mark ∉ field) :
    pieces (· = mark) ([mark].intercalate fields) = fields := by
  induction fields with
  | nil => exact absurd rfl nonempty
  | cons field rest inductionHypothesis =>
    obtain ⟨first, later⟩ := List.forall_mem_cons.mp plain
    cases rest with
    | nil =>
      rw [List.intercalate_singleton]
      exact pieces_of_refused (refused_of_not_mem first)
    | cons next others =>
      rw [List.intercalate_cons_cons, List.append_assoc, List.singleton_append,
        pieces_append_separator (refused_of_not_mem first) (decide_eq_true rfl),
        inductionHypothesis (List.cons_ne_nil _ _) later]

theorem not_mem_intercalate {mark separator : Char} {fields : List (List Char)}
    (other : mark ≠ separator) (plain : ∀ field ∈ fields, mark ∉ field) :
    mark ∉ [separator].intercalate fields := by
  induction fields with
  | nil => exact List.not_mem_nil
  | cons field rest inductionHypothesis =>
    obtain ⟨first, later⟩ := List.forall_mem_cons.mp plain
    cases rest with
    | nil =>
      rw [List.intercalate_singleton]
      exact first
    | cons next others =>
      rw [List.intercalate_cons_cons, List.mem_append, List.mem_append, List.mem_singleton]
      rintro ((inField | same) | inRest)
      · exact first inField
      · exact other same
      · exact inductionHypothesis later inRest

/-- Fields joined by a mark that none of them holds have the mark between any two. -/
theorem count_intercalate {mark : Char} {fields : List (List Char)}
    (plain : ∀ field ∈ fields, mark ∉ field) :
    ([mark].intercalate fields).count mark = fields.length - 1 := by
  induction fields with
  | nil => rfl
  | cons field rest inductionHypothesis =>
    obtain ⟨first, later⟩ := List.forall_mem_cons.mp plain
    cases rest with
    | nil =>
      rw [List.intercalate_singleton]
      exact List.count_eq_zero_of_not_mem first
    | cons next others =>
      rw [List.intercalate_cons_cons, List.count_append, List.count_append,
        List.count_eq_zero_of_not_mem first, List.count_singleton_self, inductionHypothesis later]
      simp only [List.length_cons]
      omega

/-- Lines ended by a mark that none of them holds are found again, with nothing behind them. -/
theorem pieces_flatMap_ended {mark : Char} {lines : List (List Char)}
    (plain : ∀ line ∈ lines, mark ∉ line) :
    pieces (· = mark) (lines.flatMap fun line => line ++ [mark]) = lines ++ [[]] := by
  induction lines with
  | nil => rfl
  | cons line rest inductionHypothesis =>
    obtain ⟨first, later⟩ := List.forall_mem_cons.mp plain
    rw [List.flatMap_cons, List.append_assoc, List.singleton_append,
      pieces_append_separator (refused_of_not_mem first) (decide_eq_true rfl),
      inductionHypothesis later, List.cons_append]

/-! ### Fragments -/

theorem ofNat_eq_of_mod_eq {number other : Nat} (same : number % 256 = other % 256) :
    UInt8.ofNat number = UInt8.ofNat other := by
  refine UInt8.toNat_inj.mp ?_
  rw [UInt8.toNat_ofNat', UInt8.toNat_ofNat']
  exact same

namespace Fragment

/-- The bytes that are written are those that a loader places in memory. -/
theorem toBytes_eq_loaded (fragment : Fragment) : fragment.toBytes = fragment.loaded := by
  cases fragment with
  | instruction opcode address => rfl
  | bytes data => rfl
  | word value =>
    show [UInt8.ofNat (value.toNat / 0x10000), UInt8.ofNat (value.toNat / 0x100),
        UInt8.ofNat (value.toNat / 1)] =
      [UInt8.ofNat (value.toNat % 0x1000000 / 0x10000),
        UInt8.ofNat (value.toNat % 0x1000000 / 0x100), UInt8.ofNat (value.toNat % 0x1000000 / 1)]
    -- The quotients differ, but only above the byte that is kept.
    have upper : UInt8.ofNat (value.toNat / 0x10000) =
        UInt8.ofNat (value.toNat % 0x1000000 / 0x10000) := ofNat_eq_of_mod_eq (by omega)
    have middle : UInt8.ofNat (value.toNat / 0x100) =
        UInt8.ofNat (value.toNat % 0x1000000 / 0x100) := ofNat_eq_of_mod_eq (by omega)
    have lower : UInt8.ofNat (value.toNat / 1) =
        UInt8.ofNat (value.toNat % 0x1000000 / 1) := ofNat_eq_of_mod_eq (by omega)
    rw [upper, middle, lower]

theorem toList_text (fragment : Fragment) :
    fragment.text.toList =
      fragment.toBytes.flatMap fun byte => Radix.hexadecimal.writePadded 2 byte.toNat := by
  rw [text, String.toList_join, List.flatMap_map]
  refine congrArg (fun digits => fragment.toBytes.flatMap digits) (funext fun byte => ?_)
  exact String.toList_ofList

theorem mem_text {fragment : Fragment} :
    ∀ character ∈ fragment.text.toList, character ∈ digitCharacters := by
  intro character member
  rw [toList_text] at member
  obtain ⟨byte, -, digit⟩ := List.mem_flatMap.mp member
  exact Radix.mem_writePadded character digit

theorem length_text (fragment : Fragment) : fragment.text.length = 2 * fragment.size := by
  rw [← String.length_toList, toList_text, ← fragment.length_toBytes]
  induction fragment.toBytes with
  | nil => rfl
  | cons byte rest inductionHypothesis =>
    rw [List.flatMap_cons, List.length_append, inductionHypothesis,
      Radix.writePadded_byte (UInt8.toNat_lt byte)]
    show 2 + 2 * rest.length = 2 * (rest.length + 1)
    rw [Nat.mul_add_one, Nat.add_comm]

end Fragment

theorem LoadRecord.readBytes?_flatMap (bytes : List UInt8) :
    readBytes? (bytes.flatMap fun byte => Radix.hexadecimal.writePadded 2 byte.toNat) =
      some bytes := by
  induction bytes with
  | nil => rfl
  | cons byte rest inductionHypothesis =>
    have digits := Radix.writePadded_byte (UInt8.toNat_lt byte)
    have read := Radix.hexadecimal.read?_writePadded 2 byte.toNat
    rw [digits] at read
    rw [List.flatMap_cons, digits]
    simp only [List.cons_append, List.nil_append, readBytes?, read, inductionHypothesis]
    show some (UInt8.ofNat byte.toNat :: rest) = some (byte :: rest)
    rw [UInt8.ofNat_toNat]

theorem LoadRecord.readBytes?_text (fragment : Fragment) :
    readBytes? fragment.text.toList = some fragment.loaded := by
  rw [Fragment.toList_text, readBytes?_flatMap, Fragment.toBytes_eq_loaded]

/-! ### Records -/

namespace ObjectRecord

/-- The fields of a record as they are written. -/
def fields : ObjectRecord → List (List Char)
  | header name start length =>
    [['H'], name.toList, (sixDigits start).toList, (sixDigits length).toList]
  | text record =>
    ['T'] :: (sixDigits record.address).toList ::
      record.fragments.map fun fragment => fragment.text.toList
  | finish start => [['E'], (sixDigits start).toList]

theorem toList_line (record : ObjectRecord) :
    record.line.toList = ['^'].intercalate record.fields := by
  cases record with
  | header name start length =>
    rw [line, String.toList_intercalate]
    rfl
  | text record =>
    rw [line, String.toList_intercalate, List.map_cons, List.map_cons, List.map_map]
    rfl
  | finish start =>
    rw [line, String.toList_intercalate]
    rfl

theorem fields_ne_nil (record : ObjectRecord) : record.fields ≠ [] := by
  cases record <;> exact List.cons_ne_nil _ _

/-- Whether a header's name leaves a character out; other records have no name. -/
def NameLacks (mark : Char) : ObjectRecord → Prop
  | header name _ _ => mark ∉ name.toList
  | _ => True

theorem nameLacks_of_header {record : ObjectRecord} {mark : Char}
    (plain : ∀ name start length, record = header name start length → mark ∉ name.toList) :
    record.NameLacks mark := by
  cases record with
  | header name start length => exact plain name start length rfl
  | text record => trivial
  | finish start => trivial

/-- A character that is no digit and no letter of a record stands in no field. -/
theorem not_mem_of_mem_fields {record : ObjectRecord} {mark : Char}
    (noDigit : mark ∉ digitCharacters) (noKind : mark ∉ ['H', 'T', 'E'])
    (plain : record.NameLacks mark) : ∀ field ∈ record.fields, mark ∉ field := by
  have number (value : Nat) : mark ∉ (sixDigits value).toList := by
    intro member
    rw [sixDigits, hexadecimalPadded, String.toList_ofList] at member
    exact noDigit (Radix.mem_writePadded mark member)
  have kind {letter : Char} (known : letter ∈ ['H', 'T', 'E']) : mark ∉ [letter] := by
    intro member
    rw [List.mem_singleton.mp member] at noKind
    exact noKind known
  cases record with
  | header name start length =>
    simp only [fields, List.forall_mem_cons]
    exact ⟨kind (by decide), plain, number start, number length, List.forall_mem_nil _⟩
  | finish start =>
    simp only [fields, List.forall_mem_cons]
    exact ⟨kind (by decide), number start, List.forall_mem_nil _⟩
  | text record =>
    simp only [fields, List.forall_mem_cons]
    refine ⟨kind (by decide), number record.address, fun field member inside => ?_⟩
    obtain ⟨fragment, -, rfl⟩ := List.mem_map.mp member
    exact noDigit (Fragment.mem_text mark inside)

/-- A line is cut into the fields of its record. -/
theorem pieces_line {record : ObjectRecord} (plain : record.NameLacks '^') :
    pieces (· = '^') record.line.toList = record.fields := by
  rw [toList_line]
  exact pieces_intercalate record.fields_ne_nil
    (not_mem_of_mem_fields (by decide) (by decide) plain)

theorem lineFeed_not_mem_line {record : ObjectRecord} (plain : record.NameLacks '\n') :
    '\n' ∉ record.line.toList := by
  rw [toList_line]
  exact not_mem_intercalate (by decide) (not_mem_of_mem_fields (by decide) (by decide) plain)

end ObjectRecord

namespace LoadRecord

theorem read?_sixDigits (number : Nat) :
    Radix.hexadecimal.read? (ObjectRecord.sixDigits number).toList = some number := by
  rw [ObjectRecord.sixDigits, hexadecimalPadded, String.toList_ofList, Radix.read?_writePadded]

/-- Items that are written one by one are read back one by one. -/
theorem mapM_map_eq_some {Item Value : Type} {write : Item → List Char}
    {read? : List Char → Option Value} {value : Item → Value} {items : List Item}
    (reads : ∀ item ∈ items, read? (write item) = some (value item)) :
    (items.map write).mapM read? = some (items.map value) := by
  induction items with
  | nil => rfl
  | cons item rest inductionHypothesis =>
    obtain ⟨first, later⟩ := List.forall_mem_cons.mp reads
    rw [List.map_cons, List.mapM_cons, first, inductionHypothesis later]
    rfl

/-- The fields of a record are read back. -/
theorem ofFields?_fields (record : ObjectRecord) :
    ofFields? record.fields = some record.loaded := by
  cases record with
  | header name start length =>
    show (do
      let first ← Radix.hexadecimal.read? (ObjectRecord.sixDigits start).toList
      let size ← Radix.hexadecimal.read? (ObjectRecord.sixDigits length).toList
      return LoadRecord.header (String.ofList name.toList) first size) = _
    rw [read?_sixDigits, read?_sixDigits, String.ofList_toList]
    rfl
  | text record =>
    show (do
      let first ← Radix.hexadecimal.read? (ObjectRecord.sixDigits record.address).toList
      let bytes ← (record.fragments.map fun fragment : Fragment =>
        fragment.text.toList).mapM readBytes?
      return LoadRecord.text first bytes) = _
    rw [read?_sixDigits, mapM_map_eq_some fun fragment _ => readBytes?_text fragment]
    rfl
  | finish start =>
    show (Radix.hexadecimal.read? (ObjectRecord.sixDigits start).toList).map LoadRecord.finish = _
    rw [read?_sixDigits]
    rfl

end LoadRecord

/-! ### Object programs -/

theorem ObjectProgram.toList_text (records : ObjectProgram) :
    records.text.toList =
      (records.map fun record => record.line.toList).flatMap fun line => line ++ ['\n'] := by
  rw [text, String.toList_join, List.flatMap_map, List.flatMap_map]
  refine congrArg (fun lines => records.flatMap lines) (funext fun record => ?_)
  rw [String.toList_append]
  rfl

/-- The text of records whose names hold no caret and no line feed is read back. -/
theorem LoadRecord.ofText?_text {records : ObjectProgram}
    (carets : ∀ record ∈ records, record.NameLacks '^')
    (lineFeeds : ∀ record ∈ records, record.NameLacks '\n') :
    ofText? records.text = some (records.map ObjectRecord.loaded) := by
  have cut : pieces (· = '\n') records.text.toList =
      (records.map fun record => record.line.toList) ++ [[]] := by
    rw [ObjectProgram.toList_text]
    refine pieces_flatMap_ended fun line member => ?_
    obtain ⟨record, inRecords, rfl⟩ := List.mem_map.mp member
    exact ObjectRecord.lineFeed_not_mem_line (lineFeeds record inRecords)
  have lines : (records.map fun record => record.line.toList).mapM
      (fun line => ofFields? (pieces (· = '^') line)) = some (records.map ObjectRecord.loaded) := by
    refine mapM_map_eq_some fun record member => ?_
    rw [ObjectRecord.pieces_line (carets record member), ofFields?_fields]
  unfold ofText?
  simp only [cut, List.getLast?_append, List.getLast?_singleton, Option.some_or, if_true,
    List.dropLast_concat]
  exact lines

/-- No record of an assembled program has a name that holds a caret or a line feed. -/
theorem assemble_nameLacks {table : OpcodeTable} {options : Options} {source : String}
    {assembly : Assembly} (assembled : assemble table options source = .ok assembly) {mark : Char}
    (plain : mark ∉ programName.toList) :
    ∀ record ∈ assembly.records, record.NameLacks mark := by
  obtain ⟨emissions, last, -, -, -, records⟩ := assemble_emitting assembled
  intro record member
  rw [records] at member
  rcases List.mem_append.mp member with front | back
  · rcases List.mem_cons.mp front with rfl | text
    · exact plain
    · obtain ⟨content, -, rfl⟩ := List.mem_map.mp text
      trivial
  · rw [List.mem_singleton.mp back]
    trivial

theorem ofText?_objectText {table : OpcodeTable} {options : Options} {source : String}
    {assembly : Assembly} (assembled : assemble table options source = .ok assembly) :
    LoadRecord.ofText? assembly.objectText = some (assembly.records.map ObjectRecord.loaded) :=
  LoadRecord.ofText?_text (assemble_nameLacks assembled (by decide))
    (assemble_nameLacks assembled (by decide))

/-- The text of an object program can be decoded without loss: it is read back as its records,
each fragment as its bytes. A fragment is written as two digits for each byte. So programs with
the same text agree in all that a loader knows of them. -/
theorem ObjectProgram.text_decodes :
    (∀ records : ObjectProgram,
      (∀ name start length, ObjectRecord.header name start length ∈ records →
        '^' ∉ name.toList ∧ '\n' ∉ name.toList) →
      LoadRecord.ofText? records.text = some (records.map ObjectRecord.loaded)) ∧
    (∀ fragment : Fragment, fragment.text.length = 2 * fragment.size ∧
      ∀ character ∈ fragment.text.toList, character ∈ digitCharacters) ∧
    ∀ (table otherTable : OpcodeTable) (options otherOptions : Options)
      (source otherSource : String) (assembly other : Assembly),
      assemble table options source = .ok assembly →
      assemble otherTable otherOptions otherSource = .ok other →
      assembly.objectText = other.objectText →
        assembly.records.map ObjectRecord.loaded = other.records.map ObjectRecord.loaded := by
  refine ⟨?_, fun fragment => ⟨fragment.length_text, Fragment.mem_text⟩, ?_⟩
  · intro records plain
    refine LoadRecord.ofText?_text (fun record member => ?_) fun record member => ?_
    · refine ObjectRecord.nameLacks_of_header fun name start length same => ?_
      exact (plain name start length (same ▸ member)).1
    · refine ObjectRecord.nameLacks_of_header fun name start length same => ?_
      exact (plain name start length (same ▸ member)).2
  · intro table otherTable options otherOptions source otherSource assembly other assembled
      otherAssembled same
    have read := ofText?_objectText assembled
    rw [same, ofText?_objectText otherAssembled] at read
    exact (Option.some.inj read).symm

/-- A program with an empty fragment, an empty text record, a word above its 24 bits, an address of
more than six digits and a blank in its name. -/
theorem ObjectProgram.text_decodes_empty_fragments :
    let records : ObjectProgram :=
      [.header "P Q" 0x1000 0x107A,
        .text ⟨0x1000, [.instruction 0x14 0x1033, .bytes [], .word 0xFF000005]⟩,
        .text ⟨0x1000000, []⟩, .finish 0x1000]
    (∀ name start length, ObjectRecord.header name start length ∈ records →
      '^' ∉ name.toList ∧ '\n' ∉ name.toList) ∧
    LoadRecord.ofText? records.text =
      some [.header "P Q" 0x1000 0x107A,
        .text 0x1000 [[0x14, 0x10, 0x33], [], [0, 0, 5]], .text 0x1000000 [], .finish 0x1000] := by
  intro records
  have plain : ∀ name start length, ObjectRecord.header name start length ∈ records →
      '^' ∉ name.toList ∧ '\n' ∉ name.toList := by
    intro name start length member
    simp [records] at member
    rw [member.1]
    decide
  exact ⟨plain, ObjectProgram.text_decodes.1 records plain⟩

end SicAssembler
