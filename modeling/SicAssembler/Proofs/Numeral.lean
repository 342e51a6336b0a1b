/-
This file proves that a written numeral is read back as the number it was
written from. Writing takes digits off the end of a number and reading appends
them again, so the two are compared on the values of the digits; the characters
come in only at the end, where each digit is read as its value. Zeros that fill
a numeral up to its width do not count. A numeral outgrows its width exactly
when its number is too large to be counted with that many digits.
-/

import Mathlib.Algebra.Group.Nat.Defs
import SicAssembler.Text.Numeral

namespace SicAssembler

/-! ### Digits -/

theorem digitCharacter_mem (value : Nat) : digitCharacter value ∈ digitCharacters := by
  unfold digitCharacter
  rw [List.getD_eq_getElem?_getD]
  cases found : digitCharacters[value]? with
  | none => decide
  | some character => exact List.mem_of_getElem? found

theorem digitValue?_digitCharacter {value : Nat} (small : value < 16) :
    digitValue? (digitCharacter value) = some value := by
  have all : ∀ value < 16, digitValue? (digitCharacter value) = some value := by decide
  exact all value small

namespace Radix

theorem two_le_base (radix : Radix) : 2 ≤ radix.base := by
  cases radix <;> decide

theorem base_le_sixteen (radix : Radix) : radix.base ≤ 16 := by
  cases radix <;> decide

theorem digit?_digitCharacter {radix : Radix} {value : Nat} (below : value < radix.base) :
    radix.digit? (digitCharacter value) = some value := by
  have small : value < 16 := Nat.lt_of_lt_of_le below radix.base_le_sixteen
  rw [digit?, digitValue?_digitCharacter small, Option.filter_some, if_pos (decide_eq_true below)]

/-! ### Values of digits -/

/-- The number that digit values denote, behind the number denoted by those before them. -/
def valueAfter (radix : Radix) (number : Nat) (digits : List Nat) : Nat :=
  digits.foldl (fun number digit => number * radix.base + digit) number

theorem digitsWithin_lt {radix : Radix} (bound number : Nat) :
    ∀ digit ∈ digitsWithin radix.base bound number, digit < radix.base := by
  have positive : 0 < radix.base := Nat.lt_of_lt_of_le (by decide) radix.two_le_base
  induction bound generalizing number with
  | zero => exact List.forall_mem_nil _
  | succ bound inductionHypothesis =>
    rw [digitsWithin]
    split
    · next small => exact List.forall_mem_singleton.mpr small
    · refine List.forall_mem_append.mpr ⟨inductionHypothesis _, ?_⟩
      exact List.forall_mem_singleton.mpr (Nat.mod_lt number positive)

/-- The digits of a number denote it; the bound on their number is no restriction. -/
theorem valueAfter_digitsWithin (radix : Radix) {bound number : Nat} (enough : number < bound) :
    radix.valueAfter 0 (digitsWithin radix.base bound number) = number := by
  induction bound generalizing number with
  | zero => exact absurd enough (Nat.not_lt_zero number)
  | succ bound inductionHypothesis =>
    rw [digitsWithin]
    split
    · show 0 * radix.base + number = number
      rw [Nat.zero_mul, Nat.zero_add]
    · next large =>
      have fewer : number / radix.base < number := by
        refine Nat.div_lt_self ?_ radix.two_le_base
        exact Nat.lt_of_lt_of_le (Nat.lt_of_lt_of_le (by decide) radix.two_le_base)
          (Nat.le_of_not_lt large)
      have front : radix.valueAfter 0 (digitsWithin radix.base bound (number / radix.base)) =
          number / radix.base :=
        inductionHypothesis (Nat.lt_of_lt_of_le fewer (Nat.le_of_lt_succ enough))
      unfold valueAfter at front ⊢
      rw [List.foldl_append, front]
      show number / radix.base * radix.base + number % radix.base = number
      rw [Nat.mul_comm]
      exact Nat.div_add_mod number radix.base

/-! ### Reading what was written -/

theorem readAfter_map_digitCharacter {radix : Radix} {digits : List Nat}
    (below : ∀ digit ∈ digits, digit < radix.base) (number : Nat) :
    radix.readAfter number (digits.map digitCharacter) = some (radix.valueAfter number digits) := by
  induction digits generalizing number with
  | nil => rfl
  | cons digit rest inductionHypothesis =>
    obtain ⟨first, later⟩ := List.forall_mem_cons.mp below
    rw [List.map_cons, readAfter, digit?_digitCharacter first]
    exact inductionHypothesis later _

theorem readAfter_write (radix : Radix) (number : Nat) :
    radix.readAfter 0 (radix.write number) = some number := by
  rw [write, readAfter_map_digitCharacter (digitsWithin_lt _ _),
    valueAfter_digitsWithin radix (Nat.lt_succ_self number)]

theorem write_ne_nil (radix : Radix) (number : Nat) : radix.write number ≠ [] := by
  rw [write, digitsWithin]
  split <;> simp

/-- Zeros in front of digits do not count. -/
theorem readAfter_replicate_append (radix : Radix) (count : Nat) (text : List Char) :
    radix.readAfter 0 (List.replicate count '0' ++ text) = radix.readAfter 0 text := by
  have zero : radix.digit? '0' = some 0 := by
    cases radix <;> decide
  induction count with
  | zero => rfl
  | succ count inductionHypothesis =>
    rw [List.replicate_succ, List.cons_append, readAfter, zero]
    show radix.readAfter (0 * radix.base + 0) _ = _
    rw [Nat.zero_mul]
    exact inductionHypothesis

/-- A written numeral is read back, whatever its width. -/
theorem read?_writePadded (radix : Radix) (width number : Nat) :
    radix.read? (radix.writePadded width number) = some number := by
  have nonempty : radix.writePadded width number ≠ [] := by
    rw [writePadded]
    exact List.append_ne_nil_of_right_ne_nil _ (radix.write_ne_nil number)
  have digits : radix.read? (radix.writePadded width number) =
      radix.readAfter 0 (radix.writePadded width number) := by
    rw [read?]
    exact nonempty
  rw [digits, writePadded, readAfter_replicate_append, readAfter_write]

/-- Without a width there is nothing to fill up. -/
theorem writePadded_zero (radix : Radix) (number : Nat) :
    radix.writePadded 0 number = radix.write number := by
  rw [writePadded, Nat.zero_sub]
  rfl

theorem mem_writePadded {radix : Radix} {width number : Nat} :
    ∀ character ∈ radix.writePadded width number, character ∈ digitCharacters := by
  intro character member
  rw [writePadded] at member
  rcases List.mem_append.mp member with filling | written
  · rw [List.eq_of_mem_replicate filling]
    decide
  · obtain ⟨value, -, rfl⟩ := List.mem_map.mp written
    exact digitCharacter_mem value

/-- A byte is written with two digits, its upper half and its lower half. -/
theorem writePadded_byte {number : Nat} (small : number < 256) :
    hexadecimal.writePadded 2 number =
      [digitCharacter (number / 16), digitCharacter (number % 16)] := by
  by_cases single : number < 16
  · have digits : hexadecimal.write number = [digitCharacter number] := by
      show (if number < 16 then [number] else _).map digitCharacter = _
      rw [if_pos single, List.map_singleton]
    rw [writePadded, digits, Nat.div_eq_of_lt single, Nat.mod_eq_of_lt single]
    rfl
  · obtain ⟨bound, rfl⟩ := Nat.exists_eq_succ_of_ne_zero (show number ≠ 0 by omega)
    have digits : hexadecimal.write (bound + 1) =
        [digitCharacter ((bound + 1) / 16), digitCharacter ((bound + 1) % 16)] := by
      show (if bound + 1 < 16 then [bound + 1]
        else (if (bound + 1) / 16 < 16 then [(bound + 1) / 16] else _) ++
          [(bound + 1) % 16]).map digitCharacter = _
      rw [if_neg single, if_pos (by omega)]
      rfl
    rw [writePadded, digits]
    rfl

/-! ### Widths -/

theorem digitsWithin_ne_nil (base : Nat) {bound number : Nat} (enough : number < bound) :
    digitsWithin base bound number ≠ [] := by
  obtain ⟨bound, rfl⟩ := Nat.exists_eq_succ_of_ne_zero (Nat.ne_zero_of_lt enough)
  rw [digitsWithin]
  split <;> simp

/-- A number has at most as many digits as are needed to count up to it. -/
theorem length_digitsWithin_le_iff (radix : Radix) {bound number : Nat} (enough : number < bound)
    (count : Nat) :
    (digitsWithin radix.base bound number).length ≤ count + 1 ↔
      number < radix.base ^ (count + 1) := by
  have positive : 0 < radix.base := Nat.lt_of_lt_of_le (by decide) radix.two_le_base
  induction bound generalizing number count with
  | zero => exact absurd enough (Nat.not_lt_zero number)
  | succ bound inductionHypothesis =>
    rw [digitsWithin]
    split
    · next small =>
      have least : radix.base ≤ radix.base ^ (count + 1) := Nat.le_self_pow (by omega) _
      exact iff_of_true (Nat.le_add_left 1 count) (Nat.lt_of_lt_of_le small least)
    · next large =>
      have fewer : number / radix.base < bound := by
        have shrinks : number / radix.base < number :=
          Nat.div_lt_self (by omega) radix.two_le_base
        omega
      rw [List.length_append, List.length_singleton, Nat.add_le_add_iff_right]
      cases count with
      | zero =>
        have front : (digitsWithin radix.base bound (number / radix.base)).length ≠ 0 :=
          fun empty => digitsWithin_ne_nil radix.base fewer (List.length_eq_zero_iff.mp empty)
        rw [Nat.zero_add, Nat.pow_one]
        omega
      | succ count =>
        refine (inductionHypothesis fewer count).trans ?_
        rw [Nat.div_lt_iff_lt_mul positive, ← Nat.pow_succ]

theorem length_writePadded (radix : Radix) (width number : Nat) :
    (radix.writePadded width number).length = max width (radix.write number).length := by
  rw [writePadded, List.length_append, List.length_replicate]
  omega

/-- The width that a numeral is filled up to is kept by the numbers that it can count. -/
theorem length_writePadded_eq_iff (radix : Radix) (width number : Nat) :
    (radix.writePadded (width + 1) number).length = width + 1 ↔
      number < radix.base ^ (width + 1) := by
  have unfilled : (radix.write number).length ≤ width + 1 ↔ number < radix.base ^ (width + 1) := by
    rw [write, List.length_map]
    exact radix.length_digitsWithin_le_iff (Nat.lt_succ_self number) width
  rw [length_writePadded, ← unfilled]
  omega

end Radix

end SicAssembler
