/-
This file proves that the operand of a word directive is encoded in 24 bits. An
operand is admitted if it is a decimal numeral, with at most one sign in front,
of a number that fits either as a signed or as an unsigned word. The word is the
number modulo the number of words, and it is written with six digits; the
negative numbers thus take the place of the upper half of the unsigned ones, so
the sign can be told again only where the number lies in the signed range.

An operand of any length is read, and what is too large for a word is refused in
the same way as what is no numeral.
-/

import SicAssembler.Proofs.Faults
import SicAssembler.Proofs.NumeralGrammar
import SicAssembler.Proofs.ObjectText

namespace SicAssembler

/-! ### Bytes as digits -/

/-- The digit values of bytes, the upper half of each byte before the lower. -/
def halves (bytes : List UInt8) : List Nat :=
  bytes.flatMap fun byte => [byte.toNat / 16, byte.toNat % 16]

theorem halves_lt (bytes : List UInt8) : ∀ digit ∈ halves bytes, digit < 16 := by
  intro digit member
  obtain ⟨byte, -, half⟩ := List.mem_flatMap.mp member
  have small := byte.toNat_lt
  simp only [List.mem_cons, List.not_mem_nil, or_false] at half
  omega

theorem length_halves (bytes : List UInt8) : (halves bytes).length = 2 * bytes.length := by
  induction bytes with
  | nil => rfl
  | cons byte rest inductionHypothesis =>
    rw [halves, List.flatMap_cons, List.length_append, ← halves, inductionHypothesis]
    simp only [List.length_cons, List.length_nil]
    omega

/-- The halves of bytes and the bytes make up the same number. -/
theorem ofDigits_halves (bytes : List UInt8) :
    Nat.ofDigits 16 (halves bytes).reverse = Nat.ofDigits 256 (bytes.map UInt8.toNat).reverse := by
  induction bytes with
  | nil => rfl
  | cons byte rest inductionHypothesis =>
    have digits : (halves (byte :: rest)).reverse =
        (halves rest).reverse ++ [byte.toNat % 16, byte.toNat / 16] := by
      rw [halves, List.flatMap_cons, List.reverse_append]
      rfl
    rw [digits, List.map_cons, List.reverse_cons, Nat.ofDigits_append, Nat.ofDigits_append,
      inductionHypothesis, List.length_reverse, List.length_reverse, length_halves,
      List.length_map, Nat.pow_mul, Nat.ofDigits_cons, Nat.ofDigits_singleton,
      Nat.ofDigits_singleton, Nat.mod_add_div]

/-- The text of a fragment is the numeral of its bytes, the first byte counting most. -/
theorem Fragment.denotes_text {fragment : Fragment} (nonempty : fragment.toBytes ≠ []) :
    Radix.hexadecimal.Denotes fragment.text.toList
      (Nat.ofDigits 256 (fragment.toBytes.map UInt8.toNat).reverse) := by
  have written : fragment.text.toList = (halves fragment.toBytes).map digitCharacter := by
    rw [toList_text, halves, List.map_flatMap]
    refine congrArg (fun digits => fragment.toBytes.flatMap digits) (funext fun byte => ?_)
    rw [Radix.writePadded_byte byte.toNat_lt]
    rfl
  have filled : halves fragment.toBytes ≠ [] := by
    intro empty
    have count := length_halves fragment.toBytes
    rw [empty, List.length_nil] at count
    exact nonempty (List.length_eq_zero_iff.mp (by omega))
  rw [written, ← ofDigits_halves]
  exact Radix.denotes_map_digitCharacter filled (halves_lt _)

/-! ### Words of 24 bits -/

/-- A word is written as the numeral of its low 24 bits. -/
theorem Fragment.denotes_text_word (word : UInt32) :
    Radix.hexadecimal.Denotes (Fragment.word word).text.toList (word.toNat % 0x1000000) := by
  have byte (unit : Nat) : (Fragment.byteAt word.toNat unit).toNat = word.toNat / unit % 256 :=
    UInt8.toNat_ofNat'
  have value : Nat.ofDigits 256 ((Fragment.word word).toBytes.map UInt8.toNat).reverse =
      word.toNat % 0x1000000 := by
    simp only [toBytes, List.map_cons, List.map_nil, byte, List.reverse_cons, List.reverse_nil,
      List.nil_append, List.cons_append, Nat.ofDigits_cons, Nat.ofDigits_nil]
    omega
  rw [← value]
  exact denotes_text (List.cons_ne_nil _ _)

/-- A number of the signed range is told from its low 24 bits. -/
theorem toInt_ofNat_emod {value : Int} (least : -0x800000 ≤ value) (most : value ≤ 0x7FFFFF) :
    (BitVec.ofNat 24 (value % 0x1000000).toNat).toInt = value := by
  have residue : ((value % 0x1000000).toNat : Int) = value % 0x1000000 :=
    Int.toNat_of_nonneg (Int.emod_nonneg value (by decide))
  rw [BitVec.toInt_ofNat', residue, Int.bmod_def]
  split <;> omega

/-! ### The law -/

namespace Statement

/-- An operand that is a signed decimal numeral, of a number that fits a word. -/
structure AdmitsWord (operand : String) (value : Int) : Prop where
  denotes : Radix.decimal.DenotesSigned operand.toList value
  least : -0x800000 ≤ value
  most : value ≤ 0xFFFFFF

/-- The 24 bits that stand for a number. -/
structure EncodesWord (value : Int) (word : UInt32) : Prop where
  /-- The word is the number modulo the number of words. -/
  residue : (word.toNat : Int) = value % 0x1000000
  /-- It is written with six digits, in upper case. -/
  width : (Fragment.word word).text.length = 6
  uppercase : ∀ character ∈ (Fragment.word word).text.toList, character ∈ digitCharacters
  /-- The digits denote the number modulo the number of words. -/
  written : Radix.hexadecimal.Denotes (Fragment.word word).text.toList
    (value % 0x1000000).toNat
  /-- A number of the signed range is what the 24 bits say. -/
  signed : value ≤ 0x7FFFFF → (BitVec.ofNat 24 word.toNat).toInt = value

/-- The law of words, for a statement with the given operand. -/
structure WordLaw (statement : Statement) (operand : String) : Prop where
  /-- A word is read exactly if the operand admits a number. -/
  accepted_iff : (∃ word, statement.word = .ok word) ↔ ∃ value, AdmitsWord operand value
  /-- The word encodes the number, and it is what the statement emits. -/
  encoded : ∀ value, AdmitsWord operand value →
    ∃ word, statement.word = .ok word ∧ EncodesWord value word ∧
      ∀ table symbols policy, statement.emission table symbols policy =
        .ok (.fragment statement.address (.word word))
  /-- Any other operand is reported, with the line of the statement. -/
  refused : (∀ value, ¬ AdmitsWord operand value) →
    statement.word = .error (.malformedNumber .wordValue operand statement.line) ∧
      ∀ table symbols policy, statement.emission table symbols policy =
        .error (.malformedNumber .wordValue operand statement.line)

/-- A word is read if the operand admits a number, which is then reduced. -/
theorem word_eq_ok_iff_admitsWord {statement : Statement} {operand : String}
    (present : statement.operand? = some operand) {word : UInt32} :
    statement.word = .ok word ↔
      ∃ value, AdmitsWord operand value ∧ UInt32.ofNat (value % 0x1000000).toNat = word := by
  rw [word_eq_ok_iff]
  constructor
  · rintro ⟨other, alsoPresent, value, read, fits, rfl⟩
    obtain rfl : operand = other := Option.some.inj (present.symm.trans alsoPresent)
    rw [fitsWord, Bool.and_eq_true, decide_eq_true_eq, decide_eq_true_eq] at fits
    exact ⟨value, ⟨Radix.readSigned?_eq_some_iff.mp read, fits.1, fits.2⟩, rfl⟩
  · rintro ⟨value, ⟨denotes, least, most⟩, rfl⟩
    refine ⟨operand, present, value, Radix.readSigned?_eq_some_iff.mpr denotes, ?_, rfl⟩
    rw [fitsWord, decide_eq_true least, decide_eq_true most, Bool.and_self]

/-- The reduced number encodes a number that fits. -/
theorem encodesWord_emod {value : Int} (least : -0x800000 ≤ value) :
    EncodesWord value (UInt32.ofNat (value % 0x1000000).toNat) := by
  have small : (value % 0x1000000).toNat < 0x1000000 := by omega
  have word : (UInt32.ofNat (value % 0x1000000).toNat).toNat = (value % 0x1000000).toNat :=
    UInt32.toNat_ofNat_of_lt' (Nat.lt_trans small (by decide))
  constructor
  case residue =>
    rw [word]
    exact Int.toNat_of_nonneg (Int.emod_nonneg value (by decide))
  case width => exact Fragment.length_text _
  case uppercase => exact Fragment.mem_text
  case written =>
    have written := Fragment.denotes_text_word (UInt32.ofNat (value % 0x1000000).toNat)
    rw [word, Nat.mod_eq_of_lt small] at written
    exact written
  case signed =>
    intro most
    rw [word]
    exact toInt_ofNat_emod least most

/-- Every word directive with an operand obeys the law of words. -/
theorem word_follows_law (statement : Statement) (operand : String)
    (places : statement.operation = .word) (present : statement.operand? = some operand) :
    statement.WordLaw operand := by
  constructor
  case accepted_iff =>
    constructor
    · rintro ⟨word, read⟩
      obtain ⟨value, admits, -⟩ := (word_eq_ok_iff_admitsWord present).mp read
      exact ⟨value, admits⟩
    · rintro ⟨value, admits⟩
      exact ⟨_, (word_eq_ok_iff_admitsWord present).mpr ⟨value, admits, rfl⟩⟩
  case encoded =>
    intro value admits
    have read := (word_eq_ok_iff_admitsWord present).mpr ⟨value, admits, rfl⟩
    refine ⟨_, read, encodesWord_emod admits.least, fun table symbols policy => ?_⟩
    simp only [Statement.emission, places, read]
    rfl
  case refused =>
    intro refused
    have unread : ∀ word, statement.word ≠ .ok word := by
      intro word read
      obtain ⟨value, admits, -⟩ := (word_eq_ok_iff_admitsWord present).mp read
      exact refused value admits
    have reported : statement.malformed .wordValue =
        .malformedNumber .wordValue operand statement.line := by
      rw [malformed, present, Option.getD_some]
    rw [← reported]
    exact ⟨word_eq_error unread, fun table symbols policy =>
      emission_eq_error_of_word places unread⟩

/-- The law for the least number that is admitted, written with a superfluous zero, and for the
first number beyond the unsigned words. -/
theorem word_follows_law_at_limits :
    let least : Statement := ⟨⟨none, "WORD", some "-08388608"⟩, 1, 0, .word⟩
    let beyond : Statement := ⟨⟨none, "WORD", some "+16777216"⟩, 2, 3, .word⟩
    (∃ word, least.word = .ok word ∧ EncodesWord (-0x800000) word ∧
      (Fragment.word word).text = "800000") ∧
    beyond.word = .error (.malformedNumber .wordValue "+16777216" 2) := by
  intro least beyond
  constructor
  · have law := word_follows_law least "-08388608" rfl rfl
    have denotes : Radix.decimal.DenotesSigned "-08388608".toList (-0x800000) :=
      Radix.readSigned?_eq_some_iff.mp (by decide)
    obtain ⟨word, read, encodes, -⟩ := law.encoded _ ⟨denotes, by decide, by decide⟩
    have same : word = 0x800000 := Except.ok.inj (read.symm.trans (by decide))
    refine ⟨word, read, encodes, ?_⟩
    rw [same]
    decide
  · refine ((word_follows_law beyond "+16777216" rfl rfl).refused fun value admits => ?_).1
    have read := Radix.readSigned?_eq_some_iff.mpr admits.denotes
    obtain rfl : 0x1000000 = value := Option.some.inj (Eq.trans (by decide) read)
    exact absurd admits.most (by decide)

end Statement

end SicAssembler
