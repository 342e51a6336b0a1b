/-
This file proves that a sidecar is read back from its text form as it was. Each
reader undoes the writer of the same thing: it reads the text of a value, no
matter what text follows as long as that can follow a value, and leaves exactly
that text behind. So readers are put together as the writers are, lists item by
item and records member by member.

The labels are the members of a record of their own, read one by one into a
dictionary. Their names are distinct, so each is added at the end, in the order
in which they were written. Numbers must fit the words that they are read into;
those of the sidecar of an assembly do.
-/

import SicAssembler.Assembly
import SicAssembler.Proofs.JsonText
import SicAssembler.Proofs.LocationCounter
import SicAssembler.Proofs.Symbols
import SicAssembler.Sidecar.Reader

namespace SicAssembler

/-! ### Separated texts -/

namespace Json

/-- Texts that are led by a comma each, and what follows them. -/
def commaLed (texts : List (List Char)) (rest : List Char) : List Char :=
  (texts.flatMap fun text => ',' :: text) ++ rest

@[simp]
theorem commaLed_nil (rest : List Char) : commaLed [] rest = rest := rfl

@[simp]
theorem commaLed_cons (text : List Char) (texts : List (List Char)) (rest : List Char) :
    commaLed (text :: texts) rest = ',' :: (text ++ commaLed texts rest) := by
  simp [commaLed]

theorem commaSeparated_cons_append (text : List Char) (texts : List (List Char))
    (rest : List Char) :
    commaSeparated (text :: texts) ++ rest = text ++ commaLed texts rest := by
  induction texts generalizing text with
  | nil => rfl
  | cons next texts inductionHypothesis =>
    rw [commaSeparated, List.append_assoc, List.cons_append, inductionHypothesis, commaLed_cons]

theorem length_lt_length_commaLed (texts : List (List Char)) (rest : List Char) :
    texts.length < (commaLed texts rest).length + 1 := by
  induction texts with
  | nil => exact Nat.zero_lt_succ _
  | cons text texts inductionHypothesis =>
    rw [commaLed_cons, List.length_cons, List.length_cons, List.length_append]
    omega

theorem delimited_commaLed (texts : List (List Char)) {rest : List Char}
    (delimited : Delimited rest) : Delimited (commaLed texts rest) := by
  cases texts with
  | nil => exact delimited
  | cons text others =>
    rw [commaLed_cons]
    exact delimited_cons _ (Or.inl rfl)

end Json

namespace Sidecar

/-! ### Readers -/

/-- Whether a reader reads a value from a text, whatever follows it. -/
def Reads {Value : Type} (reader : Reader Value) (text : List Char) (value : Value) : Prop :=
  ∀ rest, Json.Delimited rest → reader (text ++ rest) = .ok (value, rest)

section Readers

variable {Value Result : Type}

/-- A reader goes on where the one before it stopped. -/
theorem bind_of_ok {reader : Reader Value} {next : Value → Reader Result} {text rest : List Char}
    {value : Value} (read : reader text = .ok (value, rest)) :
    (reader >>= next) text = next value rest := by
  show (reader text >>= fun found => next found.1 found.2) = _
  rw [read]
  rfl

theorem tokenBound_eq (text : List Char) : tokenBound text = .ok (text.length + 1, text) := rfl

theorem token_of_nextToken {text rest : List Char} {found : Json.Token}
    (next : Json.nextToken text = some (found, rest)) : token text = .ok (found, rest) := by
  unfold token
  rw [next]

theorem peek_of_nextToken {text rest : List Char} {found : Json.Token}
    (next : Json.nextToken text = some (found, rest)) : peek text = .ok (found, text) := by
  unfold peek
  rw [next]

theorem pass_of_nextToken {text rest : List Char} {needed : Json.Token}
    (next : Json.nextToken text = some (needed, rest)) : pass needed text = .ok ((), rest) := by
  unfold pass
  rw [bind_of_ok (token_of_nextToken next), if_pos rfl]
  rfl

/-- A value that is read can be changed. -/
theorem Reads.map {reader : Reader Value} {text : List Char} {value : Value}
    (reads : Reads reader text value) (change : Value → Result) :
    Reads (do return change (← reader)) text (change value) := by
  intro rest delimited
  rw [bind_of_ok (reads rest delimited)]
  rfl

end Readers

/-! ### Strings and numbers -/

theorem stringContent_map_partOf (text : String) (rest : List Char) :
    stringContent (text.toList.map Json.partOf) rest = .ok (text, rest) := by
  unfold stringContent
  rw [Json.content?_map_partOf]
  dsimp only
  rw [String.ofList_toList]
  rfl

theorem readKey_quote (key : String) (rest : List Char) :
    readKey (Json.quote key.toList ++ rest) = .ok (key, rest) := by
  unfold readKey
  rw [bind_of_ok (token_of_nextToken (Json.nextToken_quote key.toList rest))]
  exact stringContent_map_partOf key rest

theorem reads_string (text : String) : Reads readString (Json.quote text.toList) text := by
  intro rest _
  unfold readString
  rw [bind_of_ok (token_of_nextToken (Json.nextToken_quote text.toList rest))]
  exact stringContent_map_partOf text rest

theorem reads_natural {limit number : Nat} (expected : Expected) (below : number < limit)
    (word : limit ≤ Json.largestWord + 1) :
    Reads (readNatural limit expected) (numberText number) number := by
  intro rest delimited
  have fits : number ≤ Json.largestWord := Nat.le_of_lt_succ (Nat.lt_of_lt_of_le below word)
  unfold readNatural
  rw [numberText, bind_of_ok (token_of_nextToken (Json.nextToken_write number delimited))]
  dsimp only
  rw [Json.value?_digitsOf fits]
  dsimp only
  rw [if_pos below]
  rfl

theorem reads_word {number : Nat} (below : number < 0x100000000) :
    Reads readWord (numberText number) number :=
  reads_natural .word below (by decide)

theorem reads_doubleWord {number : Nat} (below : number < 0x10000000000000000) :
    Reads readDoubleWord (numberText number) number :=
  reads_natural .doubleWord below (by decide)

/-! ### Lists -/

section Lists

variable {Value : Type} {readItem : Reader Value} {write : Value → List Char}

theorem readLaterItems_commaLed {items : List Value}
    (reads : ∀ item ∈ items, Reads readItem (write item) item) (rest : List Char) {bound : Nat}
    (enough : items.length < bound) :
    readLaterItems readItem bound (Json.commaLed (items.map write) (']' :: rest)) =
      .ok (items, rest) := by
  induction items generalizing bound with
  | nil =>
    obtain ⟨bound, rfl⟩ := Nat.exists_eq_succ_of_ne_zero (Nat.ne_zero_of_lt enough)
    rfl
  | cons item items inductionHypothesis =>
    obtain ⟨bound, rfl⟩ := Nat.exists_eq_succ_of_ne_zero (Nat.ne_zero_of_lt enough)
    obtain ⟨first, later⟩ := List.forall_mem_cons.mp reads
    have behind := inductionHypothesis later (Nat.lt_of_succ_lt_succ enough)
    have delimited := Json.delimited_commaLed (items.map write)
      (Json.delimited_cons rest (Or.inr (Or.inr rfl)))
    rw [List.map_cons, Json.commaLed_cons, readLaterItems, bind_of_ok (token_of_nextToken rfl)]
    dsimp only
    rw [bind_of_ok (first _ delimited), bind_of_ok behind]
    rfl

/-- A list is read back if its items are and each is a record, which is not taken for the end of
the list. -/
theorem reads_list {items : List Value}
    (reads : ∀ item ∈ items, Reads readItem (write item) item)
    (records : ∀ item, ∃ members, write item = Json.record members) :
    Reads (readList readItem) (Json.list (items.map write)) items := by
  intro rest _
  have opening : Json.list (items.map write) ++ rest =
      '[' :: (Json.commaSeparated (items.map write) ++ ']' :: rest) := by
    simp [Json.list]
  rw [opening, readList, bind_of_ok (token_of_nextToken rfl)]
  dsimp only
  unfold readItems
  cases items with
  | nil => rfl
  | cons item items =>
    obtain ⟨first, later⟩ := List.forall_mem_cons.mp reads
    obtain ⟨members, written⟩ := records item
    have delimited := Json.delimited_commaLed (items.map write)
      (Json.delimited_cons rest (Or.inr (Or.inr rfl)))
    have enough := Json.length_lt_length_commaLed (items.map write) (']' :: rest)
    rw [List.length_map] at enough
    have looked (text : List Char) :
        peek (write item ++ text) = .ok (.openRecord, write item ++ text) := by
      rw [written]
      exact peek_of_nextToken rfl
    rw [List.map_cons, Json.commaSeparated_cons_append, bind_of_ok (looked _)]
    dsimp only
    rw [bind_of_ok (first _ delimited), bind_of_ok (tokenBound_eq _),
      bind_of_ok (readLaterItems_commaLed later rest enough)]
    rfl

end Lists

/-! ### Members of a record -/

section Members

variable {State : Type} {readMember : State → String → Reader State}

/-- Whether members are read one after the other, each from the state that the one before it led
to. -/
inductive ReadsMembers (readMember : State → String → Reader State) :
    State → List (String × List Char) → State → Prop where
  | nil (state : State) : ReadsMembers readMember state [] state
  | cons {state next last : State} {key : String} {value : List Char}
      {members : List (String × List Char)}
      (first : Reads (readMember state key) (':' :: value) next)
      (later : ReadsMembers readMember next members last) :
      ReadsMembers readMember state ((key, value) :: members) last

/-- The texts of members. -/
def memberTexts (members : List (String × List Char)) : List (List Char) :=
  members.map fun (key, value) => Json.member key value

theorem member_append (key : String) (value rest : List Char) :
    Json.member key value ++ rest = Json.quote key.toList ++ (':' :: value ++ rest) := by
  simp [Json.member]

namespace ReadsMembers

theorem readLaterMembers_commaLed {state last : State} {members : List (String × List Char)}
    (reads : ReadsMembers readMember state members last) (rest : List Char) {bound : Nat}
    (enough : members.length < bound) :
    readLaterMembers readMember bound state
        (Json.commaLed (memberTexts members) ('\x7d' :: rest)) = .ok (last, rest) := by
  induction reads generalizing bound with
  | nil state =>
    obtain ⟨bound, rfl⟩ := Nat.exists_eq_succ_of_ne_zero (Nat.ne_zero_of_lt enough)
    rfl
  | @cons state next last key value members first later inductionHypothesis =>
    obtain ⟨bound, rfl⟩ := Nat.exists_eq_succ_of_ne_zero (Nat.ne_zero_of_lt enough)
    have delimited := Json.delimited_commaLed (memberTexts members)
      (Json.delimited_cons rest (Or.inr (Or.inl rfl)))
    rw [memberTexts, List.map_cons, ← memberTexts, Json.commaLed_cons, readLaterMembers,
      bind_of_ok (token_of_nextToken rfl)]
    dsimp only
    rw [member_append, bind_of_ok (readKey_quote key _), bind_of_ok (first _ delimited)]
    exact inductionHypothesis (Nat.lt_of_succ_lt_succ enough)

/-- The members of a record are read up to its end. -/
theorem readMembers_commaSeparated {state last : State} {members : List (String × List Char)}
    (reads : ReadsMembers readMember state members last) (rest : List Char) :
    readMembers readMember state
        (Json.commaSeparated (memberTexts members) ++ '\x7d' :: rest) = .ok (last, rest) := by
  unfold readMembers
  cases reads with
  | nil => rfl
  | @cons _ next _ key value members first later =>
    have delimited := Json.delimited_commaLed (memberTexts members)
      (Json.delimited_cons rest (Or.inr (Or.inl rfl)))
    have enough := Json.length_lt_length_commaLed (memberTexts members) ('\x7d' :: rest)
    rw [memberTexts, List.length_map, ← memberTexts] at enough
    rw [memberTexts, List.map_cons, ← memberTexts, Json.commaSeparated_cons_append, member_append,
      bind_of_ok (peek_of_nextToken (Json.nextToken_quote key.toList _))]
    dsimp only
    rw [bind_of_ok (readKey_quote key _), bind_of_ok (first _ delimited),
      bind_of_ok (tokenBound_eq _)]
    exact later.readLaterMembers_commaLed rest enough

end ReadsMembers

end Members

theorem token_record (members : List (List Char)) (rest : List Char) :
    token (Json.record members ++ rest) =
      .ok (.openRecord, Json.commaSeparated members ++ '\x7d' :: rest) := by
  have written : Json.record members ++ rest =
      '\x7b' :: (Json.commaSeparated members ++ '\x7d' :: rest) := by
    simp [Json.record]
  rw [written]
  exact token_of_nextToken rfl

theorem pass_colon (rest : List Char) : pass .colon (':' :: rest) = .ok ((), rest) :=
  pass_of_nextToken rfl

/-! ### Labels -/

theorem reads_label (labels : Dictionary Nat) (label : String) {address : Nat}
    (below : address < 0x100000000) :
    Reads (readLabel labels label) (':' :: numberText address) (labels.insert label address) := by
  intro rest delimited
  rw [List.cons_append, readLabel, bind_of_ok (pass_colon _)]
  exact (reads_word below).map (labels.insert label) rest delimited

/-- Labels with distinct names are added one behind the other. -/
theorem readsMembers_labels {entries : List (String × Nat)} (labels : Dictionary Nat)
    (distinct : ((labels.entries ++ entries).map Prod.fst).Nodup)
    (below : ∀ entry ∈ entries, entry.2 < 0x100000000) :
    ∃ last : Dictionary Nat, last.entries = labels.entries ++ entries ∧
      ReadsMembers readLabel labels (entries.map fun entry => (entry.1, numberText entry.2))
        last := by
  induction entries generalizing labels with
  | nil => exact ⟨labels, (List.append_nil _).symm, .nil labels⟩
  | cons entry entries inductionHypothesis =>
    obtain ⟨label, address⟩ := entry
    obtain ⟨first, later⟩ := List.forall_mem_cons.mp below
    have added := Dictionary.entries_insert_of_not_contains address
      (Dictionary.not_contains_of_nodup distinct)
    rw [← List.singleton_append, ← List.append_assoc, ← added] at distinct
    obtain ⟨last, same, reads⟩ := inductionHypothesis (labels.insert label address) distinct later
    refine ⟨last, ?_, .cons (reads_label labels label first) reads⟩
    rw [same, added, List.append_assoc, List.singleton_append]

theorem reads_labels (labels : Dictionary Nat)
    (below : ∀ entry ∈ labels.entries, entry.2 < 0x100000000) :
    Reads readLabels (labelsText labels) labels := by
  intro rest _
  obtain ⟨last, same, reads⟩ := readsMembers_labels .empty labels.distinct below
  have written : labelsText labels = Json.record
      (memberTexts (labels.entries.map fun entry => (entry.1, numberText entry.2))) := by
    rw [labelsText, memberTexts, List.map_map]
    rfl
  rw [written, readLabels, bind_of_ok (token_record _ rest)]
  dsimp only
  rw [reads.readMembers_commaSeparated rest, Dictionary.ext same]

/-! ### Records with fixed fields -/

namespace Shape

variable {Field Draft : Type} {shape : Shape Field Draft}

/-- Whether each field is found by its name. -/
def Named (shape : Shape Field Draft) : Prop :=
  ∀ field, shape.fields.find? (fun other => shape.name other = shape.name field) = some field

/-- A field that the draft does not have yet is read into it. -/
theorem Named.reads_member (named : shape.Named) (field : Field) {draft next : Draft}
    {value : List Char} (fresh : shape.has draft field = false)
    (reads : Reads (shape.read draft field) value next) :
    Reads (shape.readMember draft (shape.name field)) (':' :: value) next := by
  intro rest delimited
  unfold readMember
  rw [named field]
  dsimp only
  rw [if_neg (Bool.eq_false_iff.mp fresh), List.cons_append, bind_of_ok (pass_colon _)]
  exact reads rest delimited

/-- A record is read if its members are and all fields are among them. -/
theorem reads_record {start draft : Draft} {members : List (String × List Char)}
    (reads : ReadsMembers shape.readMember start members draft)
    (complete : ∀ field ∈ shape.fields, shape.has draft field = true) :
    Reads (shape.readDraft start) (Json.record (memberTexts members)) draft := by
  intro rest _
  have none : shape.fields.find? (fun field => !shape.has draft field) = none := by
    refine List.find?_eq_none.mpr fun field member => ?_
    rw [complete field member]
    exact Bool.false_ne_true
  unfold readDraft
  rw [bind_of_ok (token_record _ rest)]
  dsimp only
  rw [bind_of_ok (reads.readMembers_commaSeparated rest), Shape.complete, none]
  rfl

end Shape

theorem lineShape_named : lineShape.Named := by
  intro field
  cases field <;> decide

theorem sidecarShape_named : sidecarShape.Named := by
  intro field
  cases field <;> decide

theorem reads_line {line : SidecarLine} (address : line.address < 0x100000000)
    (number : line.lineNumber < 0x10000000000000000) : Reads readLine (lineText line) line := by
  have members : ReadsMembers lineShape.readMember {}
      [("address", numberText line.address), ("text", Json.quote line.text.toList),
        ("line_number", numberText line.lineNumber)]
      ⟨some line.address, some line.text, some line.lineNumber⟩ :=
    .cons (lineShape_named.reads_member .address rfl ((reads_word address).map _))
      (.cons (lineShape_named.reads_member .text rfl ((reads_string line.text).map _))
        (.cons (lineShape_named.reads_member .lineNumber rfl ((reads_doubleWord number).map _))
          (.nil _)))
  have complete : ∀ field ∈ lineShape.fields, lineShape.has
      ⟨some line.address, some line.text, some line.lineNumber⟩ field = true := by
    intro field _
    cases field <;> rfl
  exact (Shape.reads_record members complete).map LineDraft.line

/-! ### Sidecars -/

/-- Whether the numbers of a sidecar fit the words that they are kept in. -/
structure Fits (sidecar : Sidecar) : Prop where
  start : sidecar.start < 0x100000000
  length : sidecar.length < 0x100000000
  lines : ∀ line ∈ sidecar.lines,
    line.address < 0x100000000 ∧ line.lineNumber < 0x10000000000000000
  labels : ∀ entry ∈ sidecar.labels.entries, entry.2 < 0x100000000

theorem read_text {sidecar : Sidecar} (fits : sidecar.Fits) :
    read sidecar.text = .ok sidecar := by
  obtain ⟨name, start, length, lines, labels⟩ := sidecar
  have linesRead : Reads (readList readLine) (Json.list (lines.map lineText)) lines :=
    reads_list (fun line member => reads_line (fits.lines line member).1 (fits.lines line member).2)
      fun _ => ⟨_, rfl⟩
  have labelsRead : Reads readLabels (labelsText labels) labels := reads_labels labels fits.labels
  have members : ReadsMembers sidecarShape.readMember {}
      [("name", Json.quote name.toList), ("start", numberText start),
        ("length", numberText length), ("lines", Json.list (lines.map lineText)),
        ("labels", labelsText labels)]
      ⟨some name, some start, some length, some lines, some labels⟩ :=
    .cons (sidecarShape_named.reads_member .name rfl ((reads_string name).map _))
      (.cons (sidecarShape_named.reads_member .start rfl ((reads_word fits.start).map _))
        (.cons (sidecarShape_named.reads_member .length rfl ((reads_word fits.length).map _))
          (.cons (sidecarShape_named.reads_member .lines rfl (linesRead.map _))
            (.cons (sidecarShape_named.reads_member .labels rfl (labelsRead.map _)) (.nil _)))))
  have complete : ∀ field ∈ sidecarShape.fields, sidecarShape.has
      ⟨some name, some start, some length, some lines, some labels⟩ field = true := by
    intro field _
    cases field <;> rfl
  have reads := Shape.reads_record members complete [] Json.delimited_nil
  rw [List.append_nil] at reads
  have whole : (sidecarShape.readDraft {}).run
      (Sidecar.mk name start length lines labels).text.toList =
      .ok (⟨some name, some start, some length, some lines, some labels⟩, []) := by
    rw [text, String.toList_ofList]
    exact reads
  unfold read
  rw [whole]
  rfl

end Sidecar

/-! ### The sidecar of an assembly -/

/-- The numbers of the sidecar of an assembly fit, unless the source has more lines than a word
can count. -/
theorem Assembly.fits_sidecar {table : OpcodeTable} {options : Options} {source : String}
    {assembly : Assembly} (assembled : assemble table options source = .ok assembly)
    (countable : (linesOf source).length < 0x10000000000000000) :
    (assembly.sidecar source).Fits := by
  obtain ⟨layout, laidOut, rest⟩ := bind_eq_ok_iff.mp assembled
  obtain ⟨records, -, result⟩ := bind_eq_ok_iff.mp rest
  cases result
  obtain ⟨found, walks, rfl⟩ := Layout.ofLines_eq_ok laidOut
  have traces := walk_traces walks
  have start := traces.start_lt (by decide)
  have counter := traces.counter_le (Nat.zero_le _)
  have addresses := traces.address_le (Nat.zero_le _)
  have numbers := walk_line_sublist walks
  unfold addressCount at start counter addresses
  refine ⟨?_, ?_, ?_, ?_⟩
  · show found.cursor.start < _
    omega
  · show found.cursor.counter - found.cursor.start < _
    omega
  · intro line member
    obtain ⟨statement, placed, rfl⟩ := List.mem_map.mp member
    have address := addresses statement placed
    have number := List.mem_range'_1.mp (numbers.subset (List.mem_map_of_mem placed))
    constructor
    · show statement.address < _
      omega
    · show statement.line < _
      omega
  · intro entry member
    obtain ⟨statement, placed, same⟩ := Layout.exists_statement_of_mem_symbols laidOut member
    have address := addresses statement placed
    omega

/-- A sidecar survives its text form: whatever its texts, labels and numbers are, reading what was
written gives the same sidecar. In particular the text that is returned with an object program is
read as the sidecar of that assembly. -/
theorem sidecar_survives_text :
    (∀ sidecar : Sidecar, sidecar.Fits → Sidecar.read sidecar.text = .ok sidecar) ∧
    ∀ (table : OpcodeTable) (options : Options) (source object debug : String),
      (linesOf source).length < 0x10000000000000000 →
      assembleWithSidecar table options source = .ok (object, debug) →
        ∃ assembly, assemble table options source = .ok assembly ∧
          object = assembly.objectText ∧ Sidecar.read debug = .ok (assembly.sidecar source) := by
  refine ⟨fun _ => Sidecar.read_text, ?_⟩
  intro table options source object debug countable returned
  obtain ⟨assembly, assembled, result⟩ := bind_eq_ok_iff.mp returned
  cases result
  exact ⟨assembly, assembled, rfl, Sidecar.read_text (Assembly.fits_sidecar assembled countable)⟩

/-- Texts with quotation marks, backslashes, controls and a character beyond the basic plane,
labels that are empty or look like the end of the record, and numbers at their limits; and the
sidecar of a source whose lines hold tabs and quotation marks. Both texts have their fields in
the order of the record. -/
theorem sidecar_survives_text_at_limits :
    let sidecar : Sidecar :=
      { name := "\"\\/\x7d,\""
        start := 0xFFFFFFFF
        length := 0
        lines := [⟨0xFFFFFFFF, "\x01\x08\x1f\x7f\t𐍈\\u0041", 0xFFFFFFFFFFFFFFFF⟩, ⟨0, "", 0⟩]
        labels := ⟨[("\x7d", 0xFFFFFFFF), ("", 10), ("\x00", 0)], by decide⟩ }
    let source := "P\tSTART 10\nA RSUB \"\\\n END\n"
    let debug := "\x7b\"name\":\"COPY\",\"start\":16,\"length\":3,\"lines\":[" ++
      "\x7b\"address\":16,\"text\":\"P\\tSTART 10\",\"line_number\":1\x7d," ++
      "\x7b\"address\":16,\"text\":\"A RSUB \\\"\\\\\",\"line_number\":2\x7d," ++
      "\x7b\"address\":19,\"text\":\" END\",\"line_number\":3\x7d]," ++
      "\"labels\":\x7b\"A\":16\x7d\x7d"
    sidecar.Fits ∧ Sidecar.read sidecar.text = .ok sidecar ∧
    sidecar.text = "\x7b\"name\":\"\\\"\\\\/\x7d,\\\"\",\"start\":4294967295,\"length\":0," ++
      "\"lines\":[\x7b\"address\":4294967295,\"text\":\"\\u0001\\b\\u001f\x7f\\t𐍈\\\\u0041\"," ++
      "\"line_number\":18446744073709551615\x7d,\x7b\"address\":0,\"text\":\"\"," ++
      "\"line_number\":0\x7d],\"labels\":\x7b\"\x7d\":4294967295,\"\":10,\"\\u0000\":0\x7d\x7d" ∧
    (linesOf source).length < 0x10000000000000000 ∧
    ∃ returned, assembleWithSidecar .sicMachine {} source = .ok returned ∧
      returned.2 = debug ∧
      ∃ assembly, assemble .sicMachine {} source = .ok assembly ∧
        returned.1 = assembly.objectText ∧
        Sidecar.read returned.2 = .ok (assembly.sidecar source) := by
  intro sidecar source debug
  have fits : sidecar.Fits := ⟨by decide, by decide, by decide, by decide⟩
  have countable : (linesOf source).length < 0x10000000000000000 := by decide +kernel
  refine ⟨fits, sidecar_survives_text.1 sidecar fits, by decide +kernel, countable, ?_⟩
  refine exists_ok_and (fun returned => returned.2 = debug) (by decide +kernel)
    fun returned assembled written => ⟨of_decide_eq_true written, ?_⟩
  exact sidecar_survives_text.2 .sicMachine {} source returned.1 returned.2 countable assembled

end SicAssembler
