/-
This file says which texts are read as opcode tables, and which tables they
give. A text is read if each of its lines is blank, a comment or an entry, and
an entry is a mnemonic with its code behind it; a mnemonic stands for the code
of its last entry. The first other line is reported, with its number and as it
stands.

The format asks for a code of one or two digits. Codes are read as numbers of at
most two bytes, however, and such a number may be a plus sign and one digit. So
the law is stated for any notion of a code: it holds for the codes that are read,
and for those of the format unless a code with a plus sign is read.
-/

import SicAssembler.Proofs.Dictionary
import SicAssembler.Proofs.FieldStyles
import SicAssembler.Proofs.NumeralGrammar

namespace SicAssembler

namespace OpcodeTable

/-! ### Codes -/

/-- A code as the format has it: one or two digits. -/
def IsCode (token : List Char) (code : UInt8) : Prop :=
  (token.length = 1 ∨ token.length = 2) ∧ Radix.hexadecimal.Denotes token code.toNat

/-- A code with a plus sign: it has one digit. -/
def IsSignedCode (token : List Char) (code : UInt8) : Prop :=
  ∃ digit, token = ['+', digit] ∧ Radix.hexadecimal.Denotes [digit] code.toNat

/-- A code as it is read. -/
def IsReadCode (token : List Char) (code : UInt8) : Prop :=
  IsCode token code ∨ IsSignedCode token code

/-- Digits are one byte long each, and so is a plus sign in front of them. -/
theorem utf8ByteSize_of_denotes {digits : List Char} {number : Nat}
    (denotes : Radix.hexadecimal.Denotes digits number) :
    (String.ofList digits).utf8ByteSize = digits.length ∧
      (String.ofList ('+' :: digits)).utf8ByteSize = digits.length + 1 := by
  have ascii : ∀ character ∈ digits, ByteConstant.isAscii character = true :=
    fun character member => ByteConstant.isAscii_of_isDigit (denotes.isDigit character member)
  exact ⟨ByteConstant.utf8ByteSize_of_isAscii ascii,
    ByteConstant.utf8ByteSize_of_isAscii (List.forall_mem_cons.mpr ⟨by decide, ascii⟩)⟩

/-- The codes that are read. -/
theorem code?_eq_some_iff {token : List Char} {code : UInt8} :
    code? token = some code ↔ IsReadCode token code := by
  constructor
  · intro found
    unfold code? at found
    split at found
    · cases found
    · next short =>
      obtain ⟨value, read, rfl⟩ := Option.map_eq_some_iff.mp found
      obtain ⟨spelled, below⟩ := Radix.readBelow?_eq_some_iff.mp read
      rw [← UInt8.toNat_ofNat_of_lt' below] at spelled
      rcases spelled with denotes | ⟨digits, rfl, denotes⟩
      · have filled := List.length_pos_iff.mpr denotes.ne_nil
        rw [(utf8ByteSize_of_denotes denotes).1] at short
        exact Or.inl ⟨by omega, denotes⟩
      · have filled := List.length_pos_iff.mpr denotes.ne_nil
        rw [(utf8ByteSize_of_denotes denotes).2] at short
        obtain ⟨digit, rfl⟩ := List.length_eq_one_iff.mp (show digits.length = 1 by omega)
        exact Or.inr ⟨digit, rfl, denotes⟩
  · intro reads
    have read : Radix.hexadecimal.readBelow? 256 token = some code.toNat := by
      refine Radix.readBelow?_eq_some_iff.mpr ⟨?_, code.toNat_lt⟩
      rcases reads with ⟨-, denotes⟩ | ⟨digit, rfl, denotes⟩
      · exact Or.inl denotes
      · exact Or.inr ⟨[digit], rfl, denotes⟩
    have short : ¬ 2 < (String.ofList token).utf8ByteSize := by
      rcases reads with ⟨length, denotes⟩ | ⟨digit, rfl, denotes⟩
      · rw [(utf8ByteSize_of_denotes denotes).1]
        omega
      · rw [(utf8ByteSize_of_denotes denotes).2]
        exact Nat.lt_irrefl 2
    rw [code?, if_neg short, read, Option.map_some, UInt8.ofNat_toNat]

/-- A plus sign is no digit. -/
theorem IsSignedCode.not_isCode {token : List Char} {code other : UInt8}
    (signed : IsSignedCode token code) : ¬ IsCode token other := by
  obtain ⟨digit, rfl, -⟩ := signed
  rintro ⟨-, denotes⟩
  exact Radix.Denotes.head_ne_sign (Or.inl rfl) denotes

/-! ### Lines -/

section Format

-- The notion of a code is left open, so that what the format asks for can be compared with what
-- is read.
variable {Code : List Char → UInt8 → Prop} {line : String} {mnemonic : String} {code : UInt8}

/-- A line that gives a mnemonic its code; what stands behind the code does not count. -/
structure IsEntry (Code : List Char → UInt8 → Prop) (line : String) (mnemonic : String)
    (code : UInt8) : Prop where
  present : Fields.isSkipped line = false
  columns : ∃ token rest, tokens line.toList = mnemonic.toList :: token :: rest ∧ Code token code

/-- A line that the format admits: it is blank, a comment or an entry. -/
def Follows (Code : List Char → UInt8 → Prop) (line : String) : Prop :=
  Fields.isSkipped line = true ∨ ∃ mnemonic code, IsEntry Code line mnemonic code

/-- The code of the last line that is an entry for the mnemonic. -/
def LastEntry (Code : List Char → UInt8 → Prop) (lines : List String) (mnemonic : String)
    (code : UInt8) : Prop :=
  ∃ before line after, lines = before ++ line :: after ∧ IsEntry Code line mnemonic code ∧
    ∀ later ∈ after, ∀ other, ¬ IsEntry Code later mnemonic other

theorem lastEntry_cons_iff {rest : List String} :
    LastEntry Code (line :: rest) mnemonic code ↔
      LastEntry Code rest mnemonic code ∨
        IsEntry Code line mnemonic code ∧
          ∀ later ∈ rest, ∀ other, ¬ IsEntry Code later mnemonic other := by
  constructor
  · rintro ⟨before, entry, after, parts, found, last⟩
    cases before with
    | nil =>
      cases parts
      exact Or.inr ⟨found, last⟩
    | cons first before =>
      cases parts
      exact Or.inl ⟨before, entry, after, rfl, found, last⟩
  · rintro (⟨before, entry, after, rfl, found, last⟩ | ⟨found, last⟩)
    · exact ⟨line :: before, entry, after, rfl, found, last⟩
    · exact ⟨[], line, rest, rfl, found, last⟩

end Format

/-! ### Reading lines -/

theorem readLine_of_isSkipped {line : String} (skipped : Fields.isSkipped line = true) :
    readLine line = .skipped := by
  unfold Fields.isSkipped at skipped
  unfold readLine
  cases found : tokens line.toList with
  | nil => rfl
  | cons first rest =>
    rw [found] at skipped
    exact if_pos (of_decide_eq_true skipped)

/-- A line that is not skipped has a first token, and the second decides. -/
theorem readLine_of_present {line : String} (present : Fields.isSkipped line = false) :
    ∃ first rest, tokens line.toList = first :: rest ∧
      readLine line =
        match rest.head?.bind code? with
        | some code => .entry (String.ofList first) code
        | none => .malformed := by
  unfold Fields.isSkipped at present
  unfold readLine
  cases found : tokens line.toList with
  | nil =>
    rw [found] at present
    cases present
  | cons first rest =>
    rw [found] at present
    exact ⟨first, rest, rfl, if_neg (of_decide_eq_false present)⟩

theorem readLine_eq_entry_iff {line mnemonic : String} {code : UInt8} :
    readLine line = .entry mnemonic code ↔ IsEntry IsReadCode line mnemonic code := by
  constructor
  · intro read
    have present : Fields.isSkipped line = false := by
      rw [Bool.eq_false_iff]
      intro skipped
      rw [readLine_of_isSkipped skipped] at read
      cases read
    obtain ⟨first, rest, found, result⟩ := readLine_of_present present
    refine ⟨present, ?_⟩
    cases rest with
    | nil => cases read.symm.trans result
    | cons token later =>
      have decided := read.symm.trans result
      rw [List.head?_cons, Option.bind_some] at decided
      cases known : code? token with
      | none =>
        rw [known] at decided
        cases decided
      | some value =>
        rw [known] at decided
        cases decided
        rw [String.toList_ofList]
        exact ⟨token, later, found, code?_eq_some_iff.mp known⟩
  · rintro ⟨present, token, later, columns, reads⟩
    obtain ⟨first, rest, found, result⟩ := readLine_of_present present
    obtain ⟨rfl, rfl⟩ := List.cons.inj (columns.symm.trans found)
    rw [result, List.head?_cons, Option.bind_some, code?_eq_some_iff.mpr reads]
    exact congrArg (TableLine.entry · code) String.ofList_toList

/-- Lines that are skipped, entries and lines against the format are read apart. -/
theorem readLine_eq_malformed_iff {line : String} :
    readLine line = .malformed ↔ ¬ Follows IsReadCode line := by
  constructor
  · rintro malformed (skipped | ⟨mnemonic, code, entry⟩)
    · exact nomatch malformed.symm.trans (readLine_of_isSkipped skipped)
    · exact nomatch malformed.symm.trans (readLine_eq_entry_iff.mpr entry)
  · intro refused
    obtain ⟨noSkip, noEntry⟩ := not_or.mp refused
    obtain ⟨first, rest, -, result⟩ := readLine_of_present (Bool.eq_false_iff.mpr noSkip)
    cases known : rest.head?.bind code? with
    | none => rw [result, known]
    | some code =>
      rw [known] at result
      exact absurd ⟨_, code, readLine_eq_entry_iff.mp result⟩ noEntry

theorem IsEntry.unique {line mnemonic other : String} {code otherCode : UInt8}
    (entry : IsEntry IsReadCode line mnemonic code)
    (again : IsEntry IsReadCode line other otherCode) : mnemonic = other ∧ code = otherCode :=
  TableLine.entry.inj
    ((readLine_eq_entry_iff.mpr entry).symm.trans (readLine_eq_entry_iff.mpr again))

/-! ### One line of a table -/

section Line

variable {table : OpcodeTable} {number : Nat} {line mnemonic : String} {code : UInt8}
  {rest : List String}

theorem addLines_cons_of_isSkipped (skipped : Fields.isSkipped line = true) :
    addLines table number (line :: rest) = addLines table (number + 1) rest := by
  rw [addLines, readLine_of_isSkipped skipped]

theorem addLines_cons_of_isEntry (entry : IsEntry IsReadCode line mnemonic code) :
    addLines table number (line :: rest) =
      addLines (table.insert mnemonic code) (number + 1) rest := by
  rw [addLines, readLine_eq_entry_iff.mpr entry]

theorem addLines_cons_of_not_follows (refused : ¬ Follows IsReadCode line) :
    addLines table number (line :: rest) = .error (.malformedTableEntry number line) := by
  rw [addLines, readLine_eq_malformed_iff.mpr refused]

/-- What a mnemonic stands for once the lines are added to a table: the code of its last entry,
or else what it stood for before. -/
def StandsFor (table : OpcodeTable) (lines : List String) (mnemonic : String) (code : UInt8) :
    Prop :=
  LastEntry IsReadCode lines mnemonic code ∨
    (∀ line ∈ lines, ∀ other, ¬ IsEntry IsReadCode line mnemonic other) ∧
      table.get? mnemonic = some code

theorem standsFor_cons_of_isSkipped (skipped : Fields.isSkipped line = true) :
    StandsFor table (line :: rest) mnemonic code ↔ StandsFor table rest mnemonic code := by
  have noEntry : ∀ other, ¬ IsEntry IsReadCode line mnemonic other := by
    intro other entry
    exact Bool.false_ne_true (entry.present.symm.trans skipped)
  rw [StandsFor, StandsFor, lastEntry_cons_iff, List.forall_mem_cons]
  simp [noEntry]

/-- An entry counts for its mnemonic unless a later one does, and for no other mnemonic. -/
theorem standsFor_cons_of_isEntry {found : String} {value : UInt8}
    (entry : IsEntry IsReadCode line found value) :
    StandsFor table (line :: rest) mnemonic code ↔
      StandsFor (table.insert found value) rest mnemonic code := by
  rw [StandsFor, StandsFor, lastEntry_cons_iff, List.forall_mem_cons, Dictionary.get?_insert]
  by_cases same : found = mnemonic
  · subst same
    have hasEntry : ¬ ∀ other, ¬ IsEntry IsReadCode line found other :=
      fun none => none value entry
    have isValue : IsEntry IsReadCode line found code ↔ value = code :=
      ⟨fun again => (entry.unique again).2, fun equal => equal ▸ entry⟩
    simp [hasEntry, isValue, and_comm]
  · have noEntry : ∀ other, ¬ IsEntry IsReadCode line mnemonic other :=
      fun other again => same (entry.unique again).1
    simp [noEntry, same]

end Line

/-! ### All lines -/

/-- Lines that follow the format are read to their end. -/
theorem addLines_of_follows (table : OpcodeTable) (number : Nat) {lines : List String}
    (follow : ∀ line ∈ lines, Follows IsReadCode line) :
    ∃ result, addLines table number lines = .ok result ∧
      ∀ mnemonic code, result.get? mnemonic = some code ↔
        StandsFor table lines mnemonic code := by
  induction lines generalizing table number with
  | nil =>
    refine ⟨table, rfl, fun mnemonic code => ?_⟩
    simp [StandsFor, LastEntry]
  | cons line rest inductionHypothesis =>
    obtain ⟨first, later⟩ := List.forall_mem_cons.mp follow
    rcases first with skipped | ⟨mnemonic, code, entry⟩
    · obtain ⟨result, added, looked⟩ := inductionHypothesis table (number + 1) later
      refine ⟨result, (addLines_cons_of_isSkipped skipped).trans added, fun other value => ?_⟩
      rw [looked, standsFor_cons_of_isSkipped skipped]
    · obtain ⟨result, added, looked⟩ :=
        inductionHypothesis (table.insert mnemonic code) (number + 1) later
      refine ⟨result, (addLines_cons_of_isEntry entry).trans added, fun other value => ?_⟩
      rw [looked, standsFor_cons_of_isEntry entry]

/-- The first line against the format is reported. -/
theorem addLines_of_not_follows (table : OpcodeTable) (number : Nat) {before : List String}
    {line : String} (after : List String)
    (follow : ∀ earlier ∈ before, Follows IsReadCode earlier)
    (refused : ¬ Follows IsReadCode line) :
    addLines table number (before ++ line :: after) =
      .error (.malformedTableEntry (before.length + number) line) := by
  induction before generalizing table number with
  | nil =>
    rw [List.length_nil, Nat.zero_add]
    exact addLines_cons_of_not_follows refused
  | cons head rest inductionHypothesis =>
    obtain ⟨first, later⟩ := List.forall_mem_cons.mp follow
    have place : (head :: rest).length + number = rest.length + (number + 1) := by
      rw [List.length_cons]
      omega
    rw [List.cons_append, place]
    rcases first with skipped | ⟨mnemonic, code, entry⟩
    · rw [addLines_cons_of_isSkipped skipped]
      exact inductionHypothesis table (number + 1) later
    · rw [addLines_cons_of_isEntry entry]
      exact inductionHypothesis _ (number + 1) later

/-- If not all lines follow the format, one of them is the first. -/
theorem exists_first_not_follows {Code : List Char → UInt8 → Prop} {lines : List String}
    (notAll : ¬ ∀ line ∈ lines, Follows Code line) :
    ∃ before line after, lines = before ++ line :: after ∧
      (∀ earlier ∈ before, Follows Code earlier) ∧ ¬ Follows Code line := by
  induction lines with
  | nil => exact absurd (List.forall_mem_nil _) notAll
  | cons head rest inductionHypothesis =>
    by_cases first : Follows Code head
    · obtain ⟨before, line, after, rfl, earlier, refused⟩ :=
        inductionHypothesis fun later => notAll (List.forall_mem_cons.mpr ⟨first, later⟩)
      exact ⟨head :: before, line, after, rfl, List.forall_mem_cons.mpr ⟨first, earlier⟩, refused⟩
    · exact ⟨[], head, rest, rfl, List.forall_mem_nil _, first⟩

/-! ### The law of the format -/

/-- The first line that does not follow the format is reported as it stands, with its number,
counted from one. -/
def ReportsFirst (Code : List Char → UInt8 → Prop) (text : String) : Prop :=
  ∀ before line after, linesOf text = before ++ line :: after →
    (∀ earlier ∈ before, Follows Code earlier) → ¬ Follows Code line →
    read text = .error (.malformedTableEntry (before.length + 1) line)

/-- The law of which texts are tables, under a notion of a code. -/
structure FormatLaw (Code : List Char → UInt8 → Prop) (text : String) : Prop where
  /-- A text is read exactly if each line is blank, a comment or an entry. -/
  accepted_iff : (∃ table, read text = .ok table) ↔ ∀ line ∈ linesOf text, Follows Code line
  /-- A mnemonic stands for the code of its last entry, and for nothing if it has none. -/
  lookup_iff : ∀ table, read text = .ok table → ∀ mnemonic code,
    table.get? mnemonic = some code ↔ LastEntry Code (linesOf text) mnemonic code
  /-- Otherwise the first line that is none of these is reported. -/
  refused : ReportsFirst Code text

/-- If the first line against the format is reported, a text that is read has no such line. -/
theorem ReportsFirst.follows {Code : List Char → UInt8 → Prop} {text : String}
    (reports : ReportsFirst Code text) {table : OpcodeTable} (accepted : read text = .ok table) :
    ∀ line ∈ linesOf text, Follows Code line := by
  by_contra notAll
  obtain ⟨before, line, after, parts, earlier, unfit⟩ := exists_first_not_follows notAll
  cases accepted.symm.trans (reports before line after parts earlier unfit)

theorem formatLaw_isReadCode (text : String) : FormatLaw IsReadCode text := by
  have reports : ReportsFirst IsReadCode text := by
    intro before line after parts earlier unfit
    rw [read, parts]
    exact addLines_of_not_follows .empty 1 after earlier unfit
  refine ⟨⟨fun ⟨table, accepted⟩ => reports.follows accepted, fun each => ?_⟩, ?_, reports⟩
  · obtain ⟨table, added, -⟩ := addLines_of_follows .empty 1 each
    exact ⟨table, added⟩
  · intro table accepted mnemonic code
    obtain ⟨result, added, looked⟩ := addLines_of_follows .empty 1 (reports.follows accepted)
    cases accepted.symm.trans added
    rw [looked, StandsFor]
    exact or_iff_left fun ⟨_, impossible⟩ => nomatch impossible

/-- A text that is refused has a line that cannot be read, and that line is reported. -/
theorem exists_of_read_eq_error {text : String} {cause : AssemblyError}
    (refused : read text = .error cause) :
    ∃ number line, cause = .malformedTableEntry number line ∧ ¬ Follows IsReadCode line := by
  have law := formatLaw_isReadCode text
  have notAll : ¬ ∀ line ∈ linesOf text, Follows IsReadCode line := by
    rw [← law.accepted_iff]
    rintro ⟨table, accepted⟩
    cases accepted.symm.trans refused
  obtain ⟨before, line, after, parts, earlier, unfit⟩ := exists_first_not_follows notAll
  cases refused.symm.trans (law.refused before line after parts earlier unfit)
  exact ⟨before.length + 1, line, rfl, unfit⟩

/-! ### Codes with a plus sign -/

/-- The first line against the format is an entry but for the plus sign of its code. -/
def FailsBySign (text : String) : Prop :=
  ∃ before line after, linesOf text = before ++ line :: after ∧
    (∀ earlier ∈ before, Follows IsCode earlier) ∧
    ∃ mnemonic code, IsEntry IsSignedCode line mnemonic code

theorem isEntry_isReadCode_iff {line mnemonic : String} {code : UInt8} :
    IsEntry IsReadCode line mnemonic code ↔
      IsEntry IsCode line mnemonic code ∨ IsEntry IsSignedCode line mnemonic code := by
  constructor
  · rintro ⟨present, token, rest, columns, plain | signed⟩
    · exact Or.inl ⟨present, token, rest, columns, plain⟩
    · exact Or.inr ⟨present, token, rest, columns, signed⟩
  · rintro (⟨present, token, rest, columns, plain⟩ | ⟨present, token, rest, columns, signed⟩)
    · exact ⟨present, token, rest, columns, Or.inl plain⟩
    · exact ⟨present, token, rest, columns, Or.inr signed⟩

/-- A line with a signed code is against the format. -/
theorem IsEntry.not_follows_isCode {line mnemonic : String} {code : UInt8}
    (signed : IsEntry IsSignedCode line mnemonic code) : ¬ Follows IsCode line := by
  obtain ⟨present, token, rest, columns, isSigned⟩ := signed
  rintro (skipped | ⟨other, value, -, plain, later, again, isPlain⟩)
  · exact Bool.false_ne_true (present.symm.trans skipped)
  · obtain ⟨-, behind⟩ := List.cons.inj (columns.symm.trans again)
    obtain ⟨rfl, -⟩ := List.cons.inj behind
    exact isSigned.not_isCode isPlain

theorem follows_isReadCode_iff {line : String} :
    Follows IsReadCode line ↔
      Follows IsCode line ∨ ∃ mnemonic code, IsEntry IsSignedCode line mnemonic code := by
  simp only [Follows, isEntry_isReadCode_iff, exists_or, or_assoc]

/-- Where no code is signed, the last entries are those of the format. -/
theorem lastEntry_isReadCode_iff {lines : List String}
    (follow : ∀ line ∈ lines, Follows IsCode line) {mnemonic : String} {code : UInt8} :
    LastEntry IsReadCode lines mnemonic code ↔ LastEntry IsCode lines mnemonic code := by
  have same : ∀ line ∈ lines, ∀ value,
      IsEntry IsReadCode line mnemonic value ↔ IsEntry IsCode line mnemonic value := by
    intro line member value
    rw [isEntry_isReadCode_iff]
    exact or_iff_left fun signed => signed.not_follows_isCode (follow line member)
  refine exists_congr fun before => exists_congr fun line => exists_congr fun after =>
    and_congr_right fun parts => ?_
  have here : line ∈ lines := by simp [parts]
  refine and_congr (same line here code) (forall₂_congr fun later member => ?_)
  have there : later ∈ lines := by simp [parts, member]
  exact forall_congr' fun other => not_congr (same later there other)

/-- Where no line fails by the sign of its code, the law of the format holds. -/
theorem formatLaw_isCode {text : String} (unsigned : ¬ FailsBySign text) :
    FormatLaw IsCode text := by
  have readLaw := formatLaw_isReadCode text
  have weaken : ∀ lines : List String, (∀ line ∈ lines, Follows IsCode line) →
      ∀ line ∈ lines, Follows IsReadCode line := by
    intro lines follow line member
    exact follows_isReadCode_iff.mpr (Or.inl (follow line member))
  have reports : ReportsFirst IsCode text := by
    intro before line after parts earlier unfit
    refine readLaw.refused before line after parts (weaken before earlier) ?_
    rw [follows_isReadCode_iff]
    rintro (fit | signed)
    · exact unfit fit
    · exact unsigned ⟨before, line, after, parts, earlier, signed⟩
  refine ⟨⟨fun ⟨table, accepted⟩ => reports.follows accepted, fun each => ?_⟩, ?_, reports⟩
  · exact readLaw.accepted_iff.mpr (weaken _ each)
  · intro table accepted mnemonic code
    rw [readLaw.lookup_iff table accepted, lastEntry_isReadCode_iff (reports.follows accepted)]

/-- Every text is read by the law of the codes that are read. The law of the format holds too,
unless the first line against the format only fails by the sign of its code. -/
theorem read_follows_format (text : String) :
    FormatLaw IsReadCode text ∧ (FormatLaw IsCode text ↔ ¬ FailsBySign text) := by
  refine ⟨formatLaw_isReadCode text, ?_, formatLaw_isCode⟩
  rintro law ⟨before, line, after, parts, earlier, mnemonic, code, signed⟩
  -- The format has this line reported, but only lines that cannot be read are.
  have reported := law.refused before line after parts earlier signed.not_follows_isCode
  obtain ⟨number, other, same, unread⟩ := exists_of_read_eq_error reported
  cases same
  exact unread (follows_isReadCode_iff.mpr (Or.inr ⟨mnemonic, code, signed⟩))

/-- A comment is skipped, and of two entries for one mnemonic the last one counts, whatever
stands behind its code. -/
theorem read_follows_format_with_repeated_entry :
    FormatLaw IsCode ". loads\nLDA 0\n\n LDA 1f again" ∧
      ∃ table, read ". loads\nLDA 0\n\n LDA 1f again" = .ok table ∧
        table.get? "LDA" = some 0x1F := by
  have parts : linesOf ". loads\nLDA 0\n\n LDA 1f again" =
      [". loads", "LDA 0", "", " LDA 1f again"] := by decide
  have follow : ∀ line ∈ linesOf ". loads\nLDA 0\n\n LDA 1f again", Follows IsCode line := by
    rw [parts]
    simp only [List.forall_mem_cons, List.not_mem_nil, false_imp_iff, implies_true, and_true]
    refine ⟨Or.inl rfl, Or.inr ⟨"LDA", 0, rfl, ['0'], [], rfl, Or.inl rfl, ?_⟩, Or.inl rfl,
      Or.inr ⟨"LDA", 0x1F, rfl, ['1', 'f'], ["again".toList], rfl, Or.inr rfl, ?_⟩⟩
    · exact Radix.read?_eq_some_iff.mp rfl
    · exact Radix.read?_eq_some_iff.mp rfl
  refine ⟨(read_follows_format _).2.mpr ?_, _, rfl, rfl⟩
  rintro ⟨before, line, after, cut, -, mnemonic, code, signed⟩
  exact signed.not_follows_isCode (follow line (by simp [cut]))

/-- A code of a plus sign and one digit is read, though the format does not admit it. -/
theorem read_accepts_signed_code :
    read "LDA +F" = .ok (Dictionary.empty.insert "LDA" 0x0F) ∧ ¬ FormatLaw IsCode "LDA +F" := by
  have accepted : read "LDA +F" = .ok (Dictionary.empty.insert "LDA" 0x0F) := rfl
  have signed : IsEntry IsSignedCode "LDA +F" "LDA" 0x0F :=
    ⟨rfl, ['+', 'F'], [], rfl, 'F', rfl, Radix.read?_eq_some_iff.mp rfl⟩
  refine ⟨accepted, fun law => signed.not_follows_isCode ?_⟩
  exact law.accepted_iff.mp ⟨_, accepted⟩ "LDA +F" (by decide)

end OpcodeTable

end SicAssembler
