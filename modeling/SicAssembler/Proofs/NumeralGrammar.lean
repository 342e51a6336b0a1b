/-
This file says which texts are numerals and which numbers they denote, without
the functions that read them. A digit is one of the sixteen digit characters, in
upper or lower case, and its value is its place among them. A numeral is a
non-empty run of digits of its base, and the number it denotes is the sum of
their values by place. Reading goes from left to right and keeps only the number
of the digits before, so the two are compared on digits behind any number.

Numbers in operands may have a sign in front, which is no digit; so a sign is
told from a numeral by its first character.
-/

import Mathlib.Data.List.Forall2
import Mathlib.Data.Nat.Digits.Defs
import SicAssembler.Proofs.ByteConstant
import SicAssembler.Proofs.Numeral

namespace SicAssembler

namespace Radix

variable {radix : Radix}

/-! ### Digits -/

/-- Whether a character is the digit of a value, in either case. -/
def IsDigitOf (radix : Radix) (character : Char) (value : Nat) : Prop :=
  value < radix.base ∧
    (character = digitCharacter value ∨ character = (digitCharacter value).toLower)

theorem digitValue?_eq_some_iff {character : Char} {value : Nat} :
    digitValue? character = some value ↔
      value < 16 ∧
        (character = digitCharacter value ∨ character = (digitCharacter value).toLower) := by
  constructor
  · intro valued
    obtain ⟨ascii, small⟩ := digitValue?_lt valued
    have all : ∀ code < 128, ∀ value < 16, digitValue? (Char.ofNat code) = some value →
        Char.ofNat code = digitCharacter value ∨
          Char.ofNat code = (digitCharacter value).toLower := by
      decide +kernel
    have here := all character.toNat ascii value small
    rw [Char.ofNat_toNat] at here
    exact ⟨small, here valued⟩
  · rintro ⟨small, upper | lower⟩
    · rw [upper, digitValue?_digitCharacter small]
    · have all : ∀ value < 16, digitValue? (digitCharacter value).toLower = some value := by
        decide
      rw [lower, all value small]

/-- A digit is read as its value. -/
theorem digit?_eq_some_iff {character : Char} {value : Nat} :
    radix.digit? character = some value ↔ radix.IsDigitOf character value := by
  rw [digit?, Option.filter_eq_some_iff, digitValue?_eq_some_iff, decide_eq_true_eq, IsDigitOf]
  constructor
  · rintro ⟨⟨-, shape⟩, below⟩
    exact ⟨below, shape⟩
  · rintro ⟨below, shape⟩
    exact ⟨⟨Nat.lt_of_lt_of_le below radix.base_le_sixteen, shape⟩, below⟩

theorem isDigit_iff {character : Char} :
    radix.isDigit character = true ↔ ∃ value, radix.IsDigitOf character value := by
  rw [isDigit, Option.isSome_iff_exists]
  exact exists_congr fun value => digit?_eq_some_iff

/-- A digit in upper case is the digit that is written. -/
theorem IsDigitOf.toUpper {character : Char} {value : Nat}
    (digit : radix.IsDigitOf character value) : character.toUpper = digitCharacter value := by
  have all : ∀ value < 16, (digitCharacter value).toUpper = digitCharacter value ∧
      (digitCharacter value).toLower.toUpper = digitCharacter value := by
    decide
  obtain ⟨upper, lower⟩ := all value (Nat.lt_of_lt_of_le digit.1 radix.base_le_sixteen)
  rcases digit.2 with rfl | rfl
  · exact upper
  · exact lower

/-- A sign is no digit. -/
theorem not_isDigitOf_sign {sign : Char} (known : sign = '+' ∨ sign = '-') (value : Nat) :
    ¬ radix.IsDigitOf sign value := by
  intro digit
  have read := digitValue?_eq_some_iff.mpr
    ⟨Nat.lt_of_lt_of_le digit.1 radix.base_le_sixteen, digit.2⟩
  rcases known with rfl | rfl <;> cases read

/-! ### Numerals -/

/-- The number that a text denotes: its characters are digits, and each counts by its place. -/
inductive Denotes (radix : Radix) : List Char → Nat → Prop where
  | intro {text : List Char} {digits : List Nat} (nonempty : text ≠ [])
      (each : List.Forall₂ radix.IsDigitOf text digits) :
      Denotes radix text (Nat.ofDigits radix.base digits.reverse)

/-- Digits behind a number count below it. -/
theorem valueAfter_eq_ofDigits (number : Nat) (digits : List Nat) :
    radix.valueAfter number digits =
      Nat.ofDigits radix.base digits.reverse + radix.base ^ digits.length * number := by
  induction digits generalizing number with
  | nil => simp [valueAfter]
  | cons digit rest inductionHypothesis =>
    have step : radix.valueAfter number (digit :: rest) =
        radix.valueAfter (number * radix.base + digit) rest := rfl
    rw [step, inductionHypothesis, List.reverse_cons, Nat.ofDigits_append, Nat.ofDigits_singleton,
      List.length_reverse, List.length_cons, pow_succ]
    ring

/-- Reading succeeds on digits, and only on digits. -/
theorem readAfter_eq_some_iff {number result : Nat} {text : List Char} :
    radix.readAfter number text = some result ↔
      ∃ digits, List.Forall₂ radix.IsDigitOf text digits ∧
        result = radix.valueAfter number digits := by
  induction text generalizing number with
  | nil =>
    constructor
    · rintro ⟨⟩
      exact ⟨[], .nil, rfl⟩
    · rintro ⟨digits, ⟨⟩, rfl⟩
      rfl
  | cons character rest inductionHypothesis =>
    rw [readAfter]
    constructor
    · intro read
      cases first : radix.digit? character with
      | none =>
        rw [first] at read
        cases read
      | some value =>
        rw [first] at read
        obtain ⟨digits, each, rfl⟩ := inductionHypothesis.mp read
        exact ⟨value :: digits, .cons (digit?_eq_some_iff.mp first) each, rfl⟩
    · rintro ⟨digits, each, rfl⟩
      cases each with
      | cons first later =>
        rw [digit?_eq_some_iff.mpr first]
        exact inductionHypothesis.mpr ⟨_, later, rfl⟩

/-- The numerals that are read are those that denote a number. -/
theorem read?_eq_some_iff {text : List Char} {number : Nat} :
    radix.read? text = some number ↔ radix.Denotes text number := by
  cases text with
  | nil =>
    constructor
    · exact fun read => nomatch read
    · rintro ⟨nonempty, -⟩
      exact absurd rfl nonempty
  | cons character rest =>
    rw [read?, readAfter_eq_some_iff]
    · constructor
      · rintro ⟨digits, each, rfl⟩
        rw [valueAfter_eq_ofDigits, Nat.mul_zero, Nat.add_zero]
        exact .intro (List.cons_ne_nil _ _) each
      · rintro ⟨-, each⟩
        refine ⟨_, each, ?_⟩
        rw [valueAfter_eq_ofDigits, Nat.mul_zero, Nat.add_zero]
    · exact List.cons_ne_nil _ _

theorem Denotes.unique {text : List Char} {number other : Nat} (first : radix.Denotes text number)
    (second : radix.Denotes text other) : number = other :=
  Option.some.inj ((read?_eq_some_iff.mpr first).symm.trans (read?_eq_some_iff.mpr second))

theorem Denotes.ne_nil {text : List Char} {number : Nat} (denotes : radix.Denotes text number) :
    text ≠ [] := by
  obtain ⟨nonempty, -⟩ := denotes
  exact nonempty

theorem forall_mem_of_forall₂ {text : List Char} {digits : List Nat}
    (each : List.Forall₂ radix.IsDigitOf text digits) :
    (∀ character ∈ text, radix.isDigit character = true) ∧
      ∀ digit ∈ digits, digit < radix.base := by
  induction each with
  | nil => exact ⟨List.forall_mem_nil _, List.forall_mem_nil _⟩
  | cons first later inductionHypothesis =>
    obtain ⟨characters, values⟩ := inductionHypothesis
    exact ⟨List.forall_mem_cons.mpr ⟨isDigit_iff.mpr ⟨_, first⟩, characters⟩,
      List.forall_mem_cons.mpr ⟨first.1, values⟩⟩

theorem Denotes.isDigit {text : List Char} {number : Nat} (denotes : radix.Denotes text number) :
    ∀ character ∈ text, radix.isDigit character = true := by
  obtain ⟨-, each⟩ := denotes
  exact (forall_mem_of_forall₂ each).1

/-- So many digits denote a number below that power of the base. -/
theorem Denotes.lt {text : List Char} {number : Nat} (denotes : radix.Denotes text number) :
    number < radix.base ^ text.length := by
  obtain ⟨-, each⟩ := denotes
  rw [each.length_eq, ← List.length_reverse]
  refine Nat.ofDigits_lt_base_pow_length radix.two_le_base fun digit member => ?_
  exact (forall_mem_of_forall₂ each).2 digit (List.mem_reverse.mp member)

/-- Digits that are written denote the number that their values make up. -/
theorem denotes_map_digitCharacter {digits : List Nat} (nonempty : digits ≠ [])
    (below : ∀ digit ∈ digits, digit < radix.base) :
    radix.Denotes (digits.map digitCharacter) (Nat.ofDigits radix.base digits.reverse) := by
  refine .intro (fun empty => nonempty (List.map_eq_nil_iff.mp empty)) ?_
  rw [List.forall₂_map_left_iff, List.forall₂_same]
  exact fun digit member => ⟨below digit member, Or.inl rfl⟩

/-- The numeral that is written for a number denotes it. -/
theorem denotes_write (radix : Radix) (number : Nat) :
    radix.Denotes (radix.write number) number := by
  rw [← read?_eq_some_iff, ← writePadded_zero]
  exact radix.read?_writePadded 0 number

/-! ### Signs -/

theorem Denotes.head_ne_sign {sign : Char} (known : sign = '+' ∨ sign = '-') {rest : List Char}
    {number : Nat} : ¬ radix.Denotes (sign :: rest) number := by
  rintro ⟨-, each⟩
  cases each with
  | cons first later => exact not_isDigitOf_sign known _ first

/-- A number below a limit is a numeral with at most a plus sign in front. -/
theorem readBelow?_eq_some_iff {limit number : Nat} {text : List Char} :
    radix.readBelow? limit text = some number ↔
      (radix.Denotes text number ∨
        ∃ digits, text = '+' :: digits ∧ radix.Denotes digits number) ∧ number < limit := by
  unfold readBelow?
  rw [Option.filter_eq_some_iff, read?_eq_some_iff, decide_eq_true_eq]
  refine and_congr_left fun _ => ?_
  split
  · next rest =>
    constructor
    · exact fun denotes => Or.inr ⟨rest, rfl, denotes⟩
    · rintro (denotes | ⟨digits, same, denotes⟩)
      · exact absurd denotes (Denotes.head_ne_sign (Or.inl rfl))
      · cases same
        exact denotes
  · next unsigned =>
    constructor
    · exact Or.inl
    · rintro (denotes | ⟨digits, rfl, -⟩)
      · exact denotes
      · exact absurd rfl (unsigned digits)

/-- The number that a text denotes with at most one sign in front. -/
inductive DenotesSigned (radix : Radix) : List Char → Int → Prop where
  | bare {text : List Char} {number : Nat} (denotes : radix.Denotes text number) :
      DenotesSigned radix text number
  | plus {text : List Char} {number : Nat} (denotes : radix.Denotes text number) :
      DenotesSigned radix ('+' :: text) number
  | minus {text : List Char} {number : Nat} (denotes : radix.Denotes text number) :
      DenotesSigned radix ('-' :: text) (-number)

/-- The signed numerals that are read are those that denote a number. -/
theorem readSigned?_eq_some_iff {text : List Char} {value : Int} :
    radix.readSigned? text = some value ↔ radix.DenotesSigned text value := by
  constructor
  · intro read
    unfold readSigned? at read
    split at read <;> obtain ⟨number, digits, rfl⟩ := Option.map_eq_some_iff.mp read
    · obtain ⟨size, unsigned, same⟩ := Option.bind_eq_some_iff.mp digits
      cases same
      exact .minus (read?_eq_some_iff.mp unsigned)
    · exact .plus (read?_eq_some_iff.mp digits)
    · exact .bare (read?_eq_some_iff.mp digits)
  · intro denotes
    cases denotes with
    | bare denotes =>
      unfold readSigned?
      split
      · exact absurd denotes (Denotes.head_ne_sign (Or.inr rfl))
      · exact absurd denotes (Denotes.head_ne_sign (Or.inl rfl))
      · rw [read?_eq_some_iff.mpr denotes]
        rfl
    | plus denotes =>
      rw [readSigned?, read?_eq_some_iff.mpr denotes]
      rfl
    | minus denotes =>
      rw [readSigned?, read?_eq_some_iff.mpr denotes]
      rfl

end Radix

end SicAssembler
