/-
This file proves that byte constants are read by their grammar, and that the
size, the bytes and the text of a constant are those of its operand. The text of
a constant reaches from the first quote of the operand to its last character,
whatever stands between them, so it may hold quotes itself; what it must not
hold is decided afterwards.

Size and bytes are told by different functions: the bytes are those of the
encoded text, or of its pairs, and a pair that cannot be read is left out while a
last digit alone is not. In a constant of the grammar every character is one byte
long and every digit has its pair, so the bytes are the codes of the characters,
or, written in base sixteen again, the digits of the operand in upper case. So
the layout moves past exactly the bytes that the object program places.
-/

import SicAssembler.Proofs.LocationCounter
import SicAssembler.Proofs.NumeralGrammar
import SicAssembler.Proofs.ObjectText

namespace SicAssembler

namespace ByteConstant

/-! ### The grammar -/

/-- The constants that operands denote. -/
inductive Denotes : String → ByteConstant → Prop where
  | characters {text : String} (nonempty : text ≠ "")
      (ascii : ∀ character ∈ text.toList, character.toNat < 128) :
      Denotes ("C'" ++ text ++ "'") (.characters text)
  | hexadecimal {digits : String} (nonempty : digits ≠ "") (even : 2 ∣ digits.length)
      (each : ∀ character ∈ digits.toList, ∃ value, Radix.hexadecimal.IsDigitOf character value) :
      Denotes ("X'" ++ digits ++ "'") (.hexadecimal digits)

/-- The text between the quotes is all that stands behind the first and before the last. -/
theorem between?_eq_some_iff {kind : Char} {text inner : List Char} :
    between? kind text = some inner ↔ text = kind :: '\'' :: (inner ++ ['\'']) := by
  constructor
  · intro found
    unfold between? at found
    split at found
    · next first rest =>
      split at found
      · next marks =>
        obtain ⟨front, rfl⟩ := List.getLast?_eq_some_iff.mp marks.2
        rw [List.dropLast_concat] at found
        rw [marks.1, Option.some.inj found]
      · cases found
    · cases found
  · rintro rfl
    rw [between?, if_pos ⟨rfl, by simp⟩, List.dropLast_concat]

theorem between?_toList_eq_some_iff {kind : Char} {operand text : String} :
    between? kind operand.toList = some text.toList ↔
      operand = String.ofList [kind, '\''] ++ text ++ "'" := by
  rw [between?_eq_some_iff, ← String.toList_inj]
  simp

theorem isCharacters_iff {text : String} :
    isCharacters text.toList = true ↔
      text ≠ "" ∧ ∀ character ∈ text.toList, character.toNat < 128 := by
  simp [isCharacters, isAscii]

theorem isHexadecimal_iff {text : String} :
    isHexadecimal text.toList = true ↔
      text ≠ "" ∧ 2 ∣ text.length ∧
        ∀ character ∈ text.toList, ∃ value, Radix.hexadecimal.IsDigitOf character value := by
  simp only [isHexadecimal, Bool.and_eq_true, List.all_eq_true, Radix.isDigit_iff, and_assoc,
    Nat.dvd_iff_mod_eq_zero, ← String.length_toList]
  simp

theorem denotes_characters_iff {operand text : String} :
    Denotes operand (.characters text) ↔
      between? 'C' operand.toList = some text.toList ∧ isCharacters text.toList = true := by
  rw [between?_toList_eq_some_iff, isCharacters_iff]
  constructor
  · intro denotes
    cases denotes with
    | characters nonempty ascii => exact ⟨rfl, nonempty, ascii⟩
  · rintro ⟨rfl, nonempty, ascii⟩
    exact .characters nonempty ascii

theorem denotes_hexadecimal_iff {operand digits : String} :
    Denotes operand (.hexadecimal digits) ↔
      between? 'X' operand.toList = some digits.toList ∧ isHexadecimal digits.toList = true := by
  rw [between?_toList_eq_some_iff, isHexadecimal_iff]
  constructor
  · intro denotes
    cases denotes with
    | hexadecimal nonempty even each => exact ⟨rfl, nonempty, even, each⟩
  · rintro ⟨rfl, nonempty, even, each⟩
    exact .hexadecimal nonempty even each

/-- The two kinds of constants begin differently, so no operand is of both. -/
theorem between?_eq_none_of_digits {text inner : List Char}
    (found : between? 'X' text = some inner) : between? 'C' text = none := by
  rw [between?_eq_some_iff] at found
  rw [Option.eq_none_iff_forall_ne_some]
  intro other alsoFound
  rw [between?_eq_some_iff] at alsoFound
  exact absurd (List.cons.inj (found.symm.trans alsoFound)).1 (by decide)

/-- The constants that are read are those that the operand denotes. -/
theorem read?_eq_some_iff {operand : String} {constant : ByteConstant} :
    read? operand = some constant ↔ Denotes operand constant := by
  constructor
  · intro read
    unfold read? at read
    split at read
    · next text found =>
      split at read
      · next valid =>
        cases read
        rw [denotes_characters_iff, String.toList_ofList]
        exact ⟨found, valid⟩
      · cases read
    · split at read
      · next text found =>
        split at read
        · next valid =>
          cases read
          rw [denotes_hexadecimal_iff, String.toList_ofList]
          exact ⟨found, valid⟩
        · cases read
      · cases read
  · intro denotes
    cases constant with
    | characters text =>
      obtain ⟨found, valid⟩ := denotes_characters_iff.mp denotes
      simp only [read?, found, if_pos valid, String.ofList_toList]
    | hexadecimal digits =>
      obtain ⟨found, valid⟩ := denotes_hexadecimal_iff.mp denotes
      simp only [read?, between?_eq_none_of_digits found, found, if_pos valid,
        String.ofList_toList]

/-! ### Bytes -/

/-- The bytes of characters are their codes. -/
theorem map_toNat_bytes_characters {text : String}
    (ascii : ∀ character ∈ text.toList, character.toNat < 128) :
    (characters text).bytes.map UInt8.toNat = text.toList.map Char.toNat := by
  have encoded := toUTF8_ofList_of_isAscii fun character member =>
    decide_eq_true (ascii character member)
  rw [String.ofList_toList] at encoded
  rw [bytes, encoded, List.map_map]
  refine List.map_congr_left fun character member => ?_
  exact UInt8.toNat_ofNat_of_lt (Nat.lt_trans (ascii character member) (by decide))

/-- Two digits denote the byte with their values as its halves. -/
theorem readBelow?_pair_eq {high low : Char} {first second : Nat}
    (highDigit : Radix.hexadecimal.IsDigitOf high first)
    (lowDigit : Radix.hexadecimal.IsDigitOf low second) :
    Radix.hexadecimal.readBelow? 256 [high, low] = some (16 * first + second) := by
  have value : Nat.ofDigits Radix.hexadecimal.base [first, second].reverse =
      16 * first + second := by
    simp [Nat.ofDigits_cons, Radix.base, Nat.add_comm]
  have denotes : Radix.hexadecimal.Denotes [high, low] (16 * first + second) := by
    rw [← value]
    exact .intro (List.cons_ne_nil _ _) (.cons highDigit (.cons lowDigit .nil))
  exact Radix.readBelow?_eq_some_iff.mpr ⟨Or.inl denotes, denotes.lt⟩

/-- The bytes of pairs of digits are written as these digits, in upper case. -/
theorem flatMap_writePadded_pairBytes {digits : List Char} (even : 2 ∣ digits.length)
    (each : ∀ character ∈ digits, ∃ value, Radix.hexadecimal.IsDigitOf character value) :
    (pairBytes (digits.map fun character => UInt8.ofNat character.toNat)).flatMap
        (fun byte => Radix.hexadecimal.writePadded 2 byte.toNat) =
      digits.map Char.toUpper := by
  match digits with
  | [] => rfl
  | [single] => exact absurd (show 2 ∣ 1 from even) (by decide)
  | high :: low :: rest =>
    simp only [List.forall_mem_cons] at each
    obtain ⟨⟨first, highDigit⟩, ⟨second, lowDigit⟩, later⟩ := each
    have shorter : 2 ∣ rest.length := (Nat.dvd_add_left (Nat.dvd_refl 2)).mp even
    have firstBound : first < 16 := highDigit.1
    have secondBound : second < 16 := lowDigit.1
    have small : 16 * first + second < 256 := by omega
    rw [pairBytes_codes_cons rest (Radix.isDigit_iff.mpr ⟨first, highDigit⟩)
        (Radix.isDigit_iff.mpr ⟨second, lowDigit⟩),
      readBelow?_pair_eq highDigit lowDigit, Option.map_some, Option.toList_some,
      List.singleton_append, List.flatMap_cons,
      flatMap_writePadded_pairBytes shorter later, UInt8.toNat_ofNat_of_lt' small,
      Radix.writePadded_byte small, List.map_cons, List.map_cons, highDigit.toUpper,
      lowDigit.toUpper, show (16 * first + second) / 16 = first by omega,
      show (16 * first + second) % 16 = second by omega]
    rfl

theorem text_bytes_hexadecimal {digits : String} (even : 2 ∣ digits.length)
    (each : ∀ character ∈ digits.toList, ∃ value, Radix.hexadecimal.IsDigitOf character value) :
    (Fragment.bytes (hexadecimal digits).bytes).text = digits.toUpper := by
  have encoded := toUTF8_ofList_of_isAscii fun character member =>
    isAscii_of_isDigit (Radix.isDigit_iff.mpr (each character member))
  rw [String.ofList_toList] at encoded
  rw [← String.toList_inj, Fragment.toList_text, String.toUpper, String.toList_map]
  rw [← String.length_toList] at even
  rw [bytes, encoded]
  exact flatMap_writePadded_pairBytes even each

/-! ### The law -/

/-- The law of byte constants, for one operand. -/
structure ReadingLaw (operand : String) : Prop where
  /-- A constant is read exactly if the operand denotes it. -/
  read : ∀ constant, read? operand = some constant ↔ Denotes operand constant
  /-- No constant is read exactly if the operand denotes none. -/
  refused : read? operand = none ↔ ∀ constant, ¬ Denotes operand constant
  /-- The size of a constant is the number of its bytes, and there is at least one. -/
  measured : ∀ constant, Denotes operand constant →
    constant.bytes.length = constant.size ∧ 1 ≤ constant.size
  /-- The bytes of characters are their codes, in order. -/
  codes : ∀ text, Denotes operand (.characters text) →
    (characters text).bytes.map UInt8.toNat = text.toList.map Char.toNat
  /-- The bytes of digits are written as these digits, in upper case. -/
  digits : ∀ digits, Denotes operand (.hexadecimal digits) →
    (Fragment.bytes (hexadecimal digits).bytes).text = digits.toUpper

theorem readingLaw (operand : String) : ReadingLaw operand := by
  constructor
  case read => exact fun constant => read?_eq_some_iff
  case refused =>
    rw [Option.eq_none_iff_forall_ne_some]
    exact forall_congr' fun constant => not_congr read?_eq_some_iff
  case measured =>
    intro constant denotes
    have read := read?_eq_some_iff.mpr denotes
    rw [size_eq_length_bytes read]
    exact ⟨rfl, length_bytes_pos read⟩
  case codes =>
    intro text denotes
    cases denotes with
    | characters nonempty ascii => exact map_toNat_bytes_characters ascii
  case digits =>
    intro digits denotes
    cases denotes with
    | hexadecimal nonempty even each => exact text_bytes_hexadecimal even each

end ByteConstant

/-- A statement places a constant: the counter moves past as many bytes as the constant has, and
these are the bytes that the statement emits. -/
structure Statement.PlacesConstant (statement : Statement) (cursor moved : Cursor)
    (constant : ByteConstant) : Prop where
  denoted : ∃ operand, statement.operand? = some operand ∧ ByteConstant.Denotes operand constant
  advance : moved.counter = cursor.counter + constant.size
  emitted : ∀ table symbols policy, statement.emission table symbols policy =
    .ok (.fragment cursor.counter (.bytes constant.bytes))
  length : (Fragment.bytes constant.bytes).toBytes.length = constant.size

theorem Cursor.Moves.placesConstant {cursor moved : Cursor} {statement : Statement}
    (moves : cursor.Moves statement moved) (byte : statement.operation = .byte) :
    ∃ constant, statement.PlacesConstant cursor moved constant := by
  cases moves with
  | restart begins named inRange => exact nomatch begins.symm.trans byte
  | advance ordinary continues here measured inRange =>
    have size := measured
    simp only [Statement.size, byte] at size
    obtain ⟨constant, read, sized⟩ := map_eq_ok_iff.mp size
    obtain ⟨operand, present, value⟩ := Statement.constant_eq_ok_iff.mp read
    refine ⟨constant, ⟨operand, present, ByteConstant.read?_eq_some_iff.mp value⟩, ?_, ?_, ?_⟩
    · rw [sized]
    · intro table symbols policy
      simp only [Statement.emission, byte, read, here]
      rfl
    · exact (ByteConstant.size_eq_length_bytes value).symm

/-- Byte constants are read by their grammar, with the size, the bytes and the text of their
operand, and a byte directive moves the counter of the layout past exactly the bytes that it
emits. -/
theorem ByteConstant.constants_follow_grammar :
    (∀ operand, ReadingLaw operand) ∧
    ∀ (cursor moved : Cursor) (table : OpcodeTable) (policy : Strictness) (line : Nat)
      (fields : Fields) (statement : Statement),
      cursor.place table policy line fields = .ok (statement, moved) →
      statement.operation = .byte → ∃ constant, statement.PlacesConstant cursor moved constant := by
  refine ⟨readingLaw, fun cursor moved table policy line fields statement placed byte => ?_⟩
  obtain ⟨⟨closes, -⟩ | moves, -⟩ := Cursor.place_cases placed
  · exact nomatch closes.finishes.symm.trans byte
  · exact moves.placesConstant byte

/-- Characters with a quote among them, digits of both cases, and a line that places the digits
behind three bytes. -/
theorem ByteConstant.constants_follow_grammar_with_inner_quote :
    ByteConstant.read? "C'it's'" = some (.characters "it's") ∧
    (Fragment.bytes (ByteConstant.hexadecimal "0aFf").bytes).text = "0AFF" ∧
    ∃ placed, Cursor.place { counter := 3 } .sicMachine .strict 1
        ⟨none, "BYTE", some "X'0aFf'"⟩ = .ok placed ∧
      placed.2.counter = 5 ∧
      ∃ constant, placed.1.PlacesConstant { counter := 3 } placed.2 constant := by
  obtain ⟨laws, places⟩ := constants_follow_grammar
  refine ⟨?_, ?_, ?_⟩
  · exact ((laws "C'it's'").read _).mpr (denotes_characters_iff.mpr ⟨by decide, by decide⟩)
  · refine ((laws "X'0aFf'").digits "0aFf"
      (denotes_hexadecimal_iff.mpr ⟨by decide, by decide⟩)).trans ?_
    rw [← String.toList_inj, String.toUpper, String.toList_map]
    decide
  · refine exists_ok_and (fun placed => placed.1.operation = .byte && placed.2.counter = 5)
      (by decide +kernel) fun placed run checked => ?_
    simp only [Bool.and_eq_true, decide_eq_true_eq] at checked
    exact ⟨checked.2, places _ _ _ _ _ _ _ run checked.1⟩

end SicAssembler
