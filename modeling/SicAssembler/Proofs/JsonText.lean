/-
This file proves that the strings and the numbers of a JSON text are read back as
they were written. A string is read one character at a time, and each character
has one written form, which is read as that character, be it the character
itself, an escape letter or an escaped code unit. Only controls are written as
code units, so no unit is ever taken for half of a pair.

A number is read as far as its digits go. It can be told from what follows it
because a mark follows it that divides or closes, or nothing at all.
-/

import Mathlib.Tactic.IntervalCases
import SicAssembler.Json.Token
import SicAssembler.Json.Writer
import SicAssembler.Proofs.Numeral

namespace SicAssembler

namespace Json

/-! ### Strings -/

/-- The part of a string that a character is written as. A control that has no escape letter is
written as a code unit. -/
def partOf (character : Char) : StringPart :=
  if character.toNat < 32 ∧ character ∉ ['\x08', '\t', '\n', '\x0c', '\r'] then
    .unit character.toNat
  else .character character

/-- The controls are the characters with the first codes. -/
theorem exists_code_of_control {character : Char} (control : character.toNat < 32) :
    ∃ code < 32, character = Char.ofNat code :=
  ⟨character.toNat, control, (Char.ofNat_toNat character).symm⟩

theorem escapedCharacter_of_plain {character : Char} (quotation : character ≠ '"')
    (slash : character ≠ '\\') (plain : ¬ character.toNat < 32) :
    escapedCharacter character = [character] := by
  have noControl (control : Char) (code : control.toNat < 32) : character ≠ control := by
    rintro rfl
    exact plain code
  simp [escapedCharacter, quotation, slash, plain, noControl '\x08', noControl '\t',
    noControl '\n', noControl '\x0c', noControl '\r']

/-- The written form of a character is read as one part. -/
theorem readParts_escapedCharacter (character : Char) (rest : List Char) :
    readParts (escapedCharacter character ++ rest) =
      addPart (partOf character) (readParts rest) := by
  by_cases control : character.toNat < 32
  · obtain ⟨code, below, rfl⟩ := exists_code_of_control control
    interval_cases code <;> rfl
  · by_cases quotation : character = '"'
    · rw [quotation]
      rfl
    · by_cases slash : character = '\\'
      · rw [slash]
        rfl
      · have part : partOf character = .character character := by simp [partOf, control]
        rw [escapedCharacter_of_plain quotation slash control, part, List.singleton_append]
        simp [readParts, slash, control]

theorem readParts_flatMap (text rest : List Char) :
    readParts (text.flatMap escapedCharacter ++ '"' :: rest) = some (text.map partOf, rest) := by
  induction text with
  | nil => simp [readParts]
  | cons character text inductionHypothesis =>
    rw [List.flatMap_cons, List.append_assoc, readParts_escapedCharacter, inductionHypothesis]
    rfl

/-- A part that was written for a character stands for it, whatever follows. -/
theorem content?_partOf_cons (character : Char) (parts : List StringPart) :
    content? (partOf character :: parts) = (content? parts).map (character :: ·) := by
  by_cases control : character.toNat < 32
  · obtain ⟨code, below, rfl⟩ := exists_code_of_control control
    -- A code unit is looked at together with the one behind it, if there is one.
    rcases parts with - | ⟨value | value, rest⟩ <;> interval_cases code <;> rfl
  · simp [partOf, control, content?]

theorem content?_map_partOf (text : List Char) : content? (text.map partOf) = some text := by
  induction text with
  | nil => rfl
  | cons character text inductionHypothesis =>
    rw [List.map_cons, content?_partOf_cons, inductionHypothesis]
    rfl

/-- A written string is the next token. -/
theorem nextToken_quote (text rest : List Char) :
    nextToken (quote text ++ rest) = some (.string (text.map partOf), rest) := by
  have written : quote text ++ rest = '"' :: (text.flatMap escapedCharacter ++ '"' :: rest) := by
    simp [quote]
  rw [written]
  show (readParts (text.flatMap escapedCharacter ++ '"' :: rest)).map _ = _
  rw [readParts_flatMap]
  rfl

/-! ### Numbers -/

/-- Whether a text may follow a value: it is at its end, or it begins with a mark that divides
values or closes what holds them. -/
def Delimited (text : List Char) : Prop :=
  ∀ mark ∈ text.head?, mark = ',' ∨ mark = '\x7d' ∨ mark = ']'

theorem delimited_nil : Delimited [] := fun _ absent => nomatch absent

theorem delimited_cons {mark : Char} (rest : List Char)
    (divides : mark = ',' ∨ mark = '\x7d' ∨ mark = ']') : Delimited (mark :: rest) := by
  rintro _ ⟨⟩
  exact divides

/-- The digits of a number are followed by no digit. -/
theorem Delimited.takeWhile_append {rest : List Char} (delimited : Delimited rest)
    {digits : List Char} (all : ∀ digit ∈ digits, Radix.decimal.isDigit digit = true) :
    (digits ++ rest).takeWhile Radix.decimal.isDigit = digits ∧
      (digits ++ rest).dropWhile Radix.decimal.isDigit = rest := by
  have ended : rest.takeWhile Radix.decimal.isDigit = [] ∧
      rest.dropWhile Radix.decimal.isDigit = rest := by
    cases rest with
    | nil => exact ⟨rfl, rfl⟩
    | cons mark later =>
      have refused : ¬ Radix.decimal.isDigit mark = true := by
        rcases delimited mark rfl with rfl | rfl | rfl <;> decide
      exact ⟨List.takeWhile_cons_of_neg refused, List.dropWhile_cons_of_neg refused⟩
  rw [List.takeWhile_append_of_pos all, List.dropWhile_append_of_pos all, ended.1, ended.2,
    List.append_nil]
  exact ⟨rfl, rfl⟩

/-- Neither a fraction nor an exponent follows. -/
theorem Delimited.readFraction {rest : List Char} (delimited : Delimited rest) :
    readFraction rest = some (none, rest) ∧ readExponent rest = some (none, rest) := by
  cases rest with
  | nil => exact ⟨rfl, rfl⟩
  | cons mark later => rcases delimited mark rfl with rfl | rfl | rfl <;> exact ⟨rfl, rfl⟩

end Json

namespace Radix

theorem isDigit_digitCharacter {radix : Radix} {value : Nat} (below : value < radix.base) :
    radix.isDigit (digitCharacter value) = true := by
  rw [isDigit, digit?_digitCharacter below, Option.isSome_some]

theorem filterMap_digit?_map {radix : Radix} {digits : List Nat}
    (below : ∀ digit ∈ digits, digit < radix.base) :
    (digits.map digitCharacter).filterMap radix.digit? = digits := by
  induction digits with
  | nil => rfl
  | cons digit rest inductionHypothesis =>
    obtain ⟨first, later⟩ := List.forall_mem_cons.mp below
    rw [List.map_cons, List.filterMap_cons_some (digit?_digitCharacter first),
      inductionHypothesis later]

/-- The numeral of a number other than zero does not begin with a zero. -/
theorem head?_digitsWithin_ne_zero (radix : Radix) {bound number : Nat} (enough : number < bound)
    (positive : 0 < number) : (digitsWithin radix.base bound number).head? ≠ some 0 := by
  induction bound generalizing number with
  | zero => exact absurd enough (Nat.not_lt_zero number)
  | succ bound inductionHypothesis =>
    rw [digitsWithin]
    split
    · simpa using Nat.ne_of_gt positive
    · next large =>
      have two := radix.two_le_base
      have fewer : number / radix.base < bound := by
        have shrinks := Nat.div_lt_self positive two
        omega
      have some : 0 < number / radix.base := Nat.div_pos (Nat.le_of_not_lt large) (by omega)
      rw [List.head?_append,
        Option.or_of_isSome (List.isSome_head?.mpr (digitsWithin_ne_nil radix.base fewer))]
      exact inductionHypothesis fewer some

end Radix

namespace Json

/-- The digits of a number, as they are written. -/
def digitsOf (number : Nat) : List Nat := digitsWithin Radix.decimal.base (number + 1) number

theorem write_eq_map_digitsOf (number : Nat) :
    Radix.decimal.write number = (digitsOf number).map digitCharacter := rfl

theorem digitsOf_lt (number : Nat) : ∀ digit ∈ digitsOf number, digit < Radix.decimal.base :=
  Radix.digitsWithin_lt _ _

theorem spanDigits_write (number : Nat) {rest : List Char} (delimited : Delimited rest) :
    spanDigits (Radix.decimal.write number ++ rest) = (digitsOf number, rest) := by
  have all : ∀ digit ∈ Radix.decimal.write number, Radix.decimal.isDigit digit = true := by
    intro character member
    obtain ⟨digit, inside, rfl⟩ := List.mem_map.mp member
    exact Radix.isDigit_digitCharacter (digitsOf_lt number digit inside)
  obtain ⟨taken, left⟩ := delimited.takeWhile_append all
  rw [spanDigits, taken, left, write_eq_map_digitsOf,
    Radix.filterMap_digit?_map (digitsOf_lt number)]

/-- A written number has no superfluous zero in front. -/
theorem readWhole_write (number : Nat) {rest : List Char} (delimited : Delimited rest) :
    readWhole (Radix.decimal.write number ++ rest) = some (digitsOf number, rest) := by
  have nonempty : digitsOf number ≠ [] :=
    Radix.digitsWithin_ne_nil Radix.decimal.base (Nat.lt_succ_self number)
  unfold readWhole
  rw [spanDigits_write number delimited]
  split
  · next empty => exact absurd (congrArg Prod.fst empty) nonempty
  · next zeros =>
    have digits : digitsOf number = _ := congrArg Prod.fst zeros
    rcases Nat.eq_zero_or_pos number with rfl | positive
    · cases digits
    · have front := Radix.decimal.head?_digitsWithin_ne_zero (Nat.lt_succ_self number) positive
      exact absurd (congrArg List.head? digits) front
  · rfl

/-- A written number is read up to what follows it. -/
theorem readUnsigned_write (number : Nat) {rest : List Char} (delimited : Delimited rest) :
    readUnsigned false (Radix.decimal.write number ++ rest) =
      some (⟨false, digitsOf number, none, none⟩, rest) := by
  obtain ⟨noFraction, noExponent⟩ := delimited.readFraction
  unfold readUnsigned
  simp [readWhole_write number delimited, noFraction, noExponent]

/-- The next token of a text that begins with a digit is a number. -/
theorem nextToken_digit {value : Nat} (below : value < 10) (rest : List Char) :
    nextToken (digitCharacter value :: rest) =
      (readUnsigned false (digitCharacter value :: rest)).map fun (number, rest) =>
        (.number number, rest) := by
  interval_cases value <;> rfl

/-- A written number is the next token if a mark or nothing follows it. -/
theorem nextToken_write (number : Nat) {rest : List Char} (delimited : Delimited rest) :
    nextToken (Radix.decimal.write number ++ rest) =
      some (.number ⟨false, digitsOf number, none, none⟩, rest) := by
  have read := readUnsigned_write number delimited
  rw [write_eq_map_digitsOf] at read ⊢
  obtain ⟨digit, later, digits⟩ := List.exists_cons_of_ne_nil
    (Radix.digitsWithin_ne_nil Radix.decimal.base (Nat.lt_succ_self number))
  have digits : digitsOf number = digit :: later := digits
  have below : digit < 10 := digitsOf_lt number digit (by simp [digits])
  rw [digits, List.map_cons, List.cons_append] at read ⊢
  rw [nextToken_digit below, read]
  rfl

/-- The value of a written number is that number, if it fits a word. -/
theorem value?_digitsOf {number : Nat} (fits : number ≤ largestWord) :
    (WrittenNumber.mk false (digitsOf number) none none).value? = some (.natural number) := by
  have denoted : (digitsOf number).foldl (fun value digit => value * 10 + digit) 0 = number :=
    Radix.decimal.valueAfter_digitsWithin (Nat.lt_succ_self number)
  unfold WrittenNumber.value?
  simp [denoted, WrittenNumber.isWhole, fits]

end Json

end SicAssembler
