/-
This file proves that the two measures of a byte constant agree. The layout
moves on by the size of the constant's text, and the object program places the
constant's bytes. For a constant that was read these are the same number, and
it is never zero: the characters are ASCII, so each of them is encoded as the
one byte that is its code, and the hexadecimal digits come in pairs none of
which is left out or stands alone.
-/

import SicAssembler.ByteConstant

namespace SicAssembler

/-! ### Digits -/

namespace Radix

theorem digitValue?_lt {character : Char} {value : Nat}
    (valued : digitValue? character = some value) : character.toNat < 128 ∧ value < 16 := by
  simp only [digitValue?] at valued
  split at valued
  · injection valued
    omega
  · split at valued
    · injection valued
      omega
    · split at valued
      · injection valued
        omega
      · cases valued

/-- A digit is an ASCII character, and its value is below the base. -/
theorem digit?_eq_some {radix : Radix} {character : Char} {value : Nat}
    (read : radix.digit? character = some value) :
    character.toNat < 128 ∧ value < radix.base := by
  obtain ⟨valued, below⟩ := Option.filter_eq_some_iff.mp read
  exact ⟨(digitValue?_lt valued).1, by simpa using below⟩

/-- Two hexadecimal digits denote a byte. -/
theorem readBelow?_pair {high low : Char} (highDigit : hexadecimal.isDigit high = true)
    (lowDigit : hexadecimal.isDigit low = true) :
    ∃ value, hexadecimal.readBelow? 256 [high, low] = some value := by
  obtain ⟨first, readFirst⟩ := Option.isSome_iff_exists.mp highDigit
  obtain ⟨second, readSecond⟩ := Option.isSome_iff_exists.mp lowDigit
  have firstBound : first < 16 := (digit?_eq_some readFirst).2
  have secondBound : second < 16 := (digit?_eq_some readSecond).2
  have unsigned : high ≠ '+' := by
    rintro rfl
    exact absurd highDigit (by decide)
  have digits : hexadecimal.read? [high, low] = some ((0 * 16 + first) * 16 + second) := by
    simp only [read?, readAfter, readFirst, readSecond, base]
  refine ⟨(0 * 16 + first) * 16 + second, ?_⟩
  unfold readBelow?
  split
  · next same => exact absurd (List.cons.inj same).1 unsigned
  · show Option.filter _ (hexadecimal.read? [high, low]) = _
    rw [digits, Option.filter_some, if_pos]
    exact decide_eq_true (by omega)

end Radix

namespace ByteConstant

/-! ### Texts of one-byte characters -/

theorem utf8Size_of_isAscii {character : Char} (ascii : isAscii character = true) :
    character.utf8Size = 1 := by
  have code : character.toNat < 128 := by simpa [isAscii] using ascii
  unfold Char.utf8Size
  rw [if_pos]
  rw [UInt32.le_iff_toNat_le]
  show character.toNat ≤ 127
  omega

/-- A text of ASCII characters is as many bytes long as it has characters. -/
theorem utf8ByteSize_of_isAscii {text : List Char}
    (ascii : ∀ character ∈ text, isAscii character = true) :
    (String.ofList text).utf8ByteSize = text.length := by
  induction text with
  | nil => rfl
  | cons character rest inductionHypothesis =>
    rw [String.ofList_cons, String.utf8ByteSize_append, String.utf8ByteSize_singleton,
      utf8Size_of_isAscii (ascii character List.mem_cons_self),
      inductionHypothesis fun other member => ascii other (List.mem_cons_of_mem _ member),
      List.length_cons, Nat.add_comm]

theorem isAscii_of_isDigit {radix : Radix} {character : Char}
    (digit : radix.isDigit character = true) : isAscii character = true := by
  obtain ⟨value, read⟩ := Option.isSome_iff_exists.mp digit
  exact decide_eq_true (Radix.digit?_eq_some read).1

/-- The bytes of a text of ASCII characters are their codes. -/
theorem toUTF8_ofList_of_isAscii {text : List Char}
    (ascii : ∀ character ∈ text, isAscii character = true) :
    (String.ofList text).toUTF8.data.toList =
      text.map fun character => UInt8.ofNat character.toNat := by
  rw [String.toUTF8_eq_toByteArray, String.toByteArray_ofList, List.utf8Encode,
    List.data_toByteArray]
  induction text with
  | nil => rfl
  | cons character rest inductionHypothesis =>
    have single : String.utf8EncodeChar character = [UInt8.ofNat character.toNat] :=
      String.utf8EncodeChar_eq_singleton
        (utf8Size_of_isAscii (ascii character List.mem_cons_self))
    rw [List.flatMap_cons, single, List.map_cons]
    exact congrArg (_ :: ·)
      (inductionHypothesis fun other member => ascii other (List.mem_cons_of_mem _ member))

theorem fromUTF8?_toUTF8 (text : String) : String.fromUTF8? text.toUTF8 = some text := by
  simp only [String.fromUTF8?, String.toUTF8_eq_toByteArray, dif_pos text.isValidUTF8]
  rfl

/-! ### Bytes -/

/-- The codes of ASCII characters denote what the characters do. -/
theorem numeralByte?_codes {text : List Char}
    (ascii : ∀ character ∈ text, isAscii character = true) :
    numeralByte? (text.map fun character => UInt8.ofNat character.toNat) =
      (Radix.hexadecimal.readBelow? 256 text).map UInt8.ofNat := by
  have encoded : (text.map fun character => UInt8.ofNat character.toNat).toByteArray =
      (String.ofList text).toUTF8 := by
    rw [← toUTF8_ofList_of_isAscii ascii]
    exact ByteArray.ext (by rw [List.data_toByteArray, Array.toArray_toList])
  rw [numeralByte?, encoded, fromUTF8?_toUTF8, Option.bind_eq_bind, Option.bind_some,
    String.toList_ofList]

/-- The first two of a text's digits are read together. -/
theorem pairBytes_codes_cons {high low : Char} (rest : List Char)
    (highDigit : Radix.hexadecimal.isDigit high = true)
    (lowDigit : Radix.hexadecimal.isDigit low = true) :
    pairBytes ((high :: low :: rest).map fun character => UInt8.ofNat character.toNat) =
      ((Radix.hexadecimal.readBelow? 256 [high, low]).map UInt8.ofNat).toList ++
        pairBytes (rest.map fun character => UInt8.ofNat character.toNat) := by
  have ascii : ∀ character ∈ [high, low], isAscii character = true := by
    simp [isAscii_of_isDigit highDigit, isAscii_of_isDigit lowDigit]
  rw [← numeralByte?_codes ascii]
  rfl

/-- Every pair of digits gives one byte. -/
theorem length_pairBytes {text : List Char} (even : 2 ∣ text.length)
    (digits : ∀ character ∈ text, Radix.hexadecimal.isDigit character = true) :
    (pairBytes (text.map fun character => UInt8.ofNat character.toNat)).length =
      text.length / 2 := by
  match text with
  | [] => rfl
  | [single] => exact absurd (show 2 ∣ 1 from even) (by decide)
  | high :: low :: rest =>
    simp only [List.forall_mem_cons] at digits
    obtain ⟨highDigit, lowDigit, later⟩ := digits
    obtain ⟨value, read⟩ := Radix.readBelow?_pair highDigit lowDigit
    have shorter : 2 ∣ rest.length := (Nat.dvd_add_left (Nat.dvd_refl 2)).mp even
    rw [pairBytes_codes_cons rest highDigit lowDigit, read, Option.map_some, Option.toList_some,
      List.singleton_append, List.length_cons, length_pairBytes shorter later]
    simp only [List.length_cons]
    omega

/-- A constant that was read is a non-empty ASCII text, or pairs of hexadecimal digits. -/
theorem read?_cases {operand : String} {constant : ByteConstant}
    (read : read? operand = some constant) :
    (∃ text, constant = characters (String.ofList text) ∧ isCharacters text = true) ∨
      ∃ text, constant = hexadecimal (String.ofList text) ∧ isHexadecimal text = true := by
  unfold read? at read
  split at read
  · next text _ =>
    split at read
    · next valid => exact Or.inl ⟨text, (Option.some.inj read).symm, valid⟩
    · cases read
  · split at read
    · next text _ =>
      split at read
      · next valid => exact Or.inr ⟨text, (Option.some.inj read).symm, valid⟩
      · cases read
    · cases read

/-- The size of a constant is the number of its bytes. A last digit that stood alone would be a byte
that the size does not count, but there is none: the digits are even in number. -/
theorem size_eq_length_bytes {operand : String} {constant : ByteConstant}
    (read : read? operand = some constant) : constant.size = constant.bytes.length := by
  rcases read?_cases read with ⟨text, rfl, valid⟩ | ⟨text, rfl, valid⟩
  · simp only [isCharacters, Bool.and_eq_true, List.all_eq_true] at valid
    rw [size, bytes, utf8ByteSize_of_isAscii valid.2, toUTF8_ofList_of_isAscii valid.2,
      List.length_map]
  · simp only [isHexadecimal, Bool.and_eq_true, decide_eq_true_eq, List.all_eq_true] at valid
    obtain ⟨⟨-, even⟩, digits⟩ := valid
    have ascii : ∀ character ∈ text, isAscii character = true :=
      fun character member => isAscii_of_isDigit (digits character member)
    rw [size, bytes, utf8ByteSize_of_isAscii ascii, toUTF8_ofList_of_isAscii ascii,
      length_pairBytes (Nat.dvd_of_mod_eq_zero even) digits]

/-- A constant has at least one byte. -/
theorem length_bytes_pos {operand : String} {constant : ByteConstant}
    (read : read? operand = some constant) : 0 < constant.bytes.length := by
  rw [← size_eq_length_bytes read]
  rcases read?_cases read with ⟨text, rfl, valid⟩ | ⟨text, rfl, valid⟩
  · simp only [isCharacters, Bool.and_eq_true, Bool.not_eq_true', List.isEmpty_eq_false_iff,
      List.all_eq_true] at valid
    rw [size, utf8ByteSize_of_isAscii valid.2]
    exact List.length_pos_iff.mpr valid.1
  · simp only [isHexadecimal, Bool.and_eq_true, Bool.not_eq_true', List.isEmpty_eq_false_iff,
      decide_eq_true_eq, List.all_eq_true] at valid
    obtain ⟨⟨nonempty, even⟩, digits⟩ := valid
    have positive : 0 < text.length := List.length_pos_iff.mpr nonempty
    rw [size, utf8ByteSize_of_isAscii fun character member =>
      isAscii_of_isDigit (digits character member)]
    omega

end ByteConstant

end SicAssembler
