/-
This file says exactly when the two field styles agree. By columns, the first
column tells whether the first token is a label; by position, the number of
tokens does. On a line with fields the two come to the same in three cases: the
line has one token, it has two and begins with a blank, or it has three or more
and does not. In every other case one style sees a label and the other does
not.

A layout depends on the lines through the first `END` only, so if the styles
agree on these, the whole source is assembled alike under both.
-/

import SicAssembler.Assembly
import SicAssembler.Proofs.ColumnPattern
import SicAssembler.Proofs.SourceLines

namespace SicAssembler

namespace Fields

/-! ### One line -/

/-- Whether a line is blank or a comment. -/
def isSkipped (line : String) : Bool :=
  (tokens line.toList).head?.all fun first => first.head? = some '.'

/-- Whether a line begins with a blank. -/
def isIndented (line : String) : Bool := beginsWith isBlank line.toList

/-- Whether a line has one token, or two behind a blank, or at least three from its first
column on. -/
def FitsBothStyles (line : String) : Prop :=
  (tokens line.toList).length = 1 ∨
    ((tokens line.toList).length = 2 ∧ isIndented line = true) ∨
    (3 ≤ (tokens line.toList).length ∧ isIndented line = false)

instance : DecidablePred FitsBothStyles := fun line =>
  inferInstanceAs (Decidable ((tokens line.toList).length = 1 ∨
    ((tokens line.toList).length = 2 ∧ isIndented line = true) ∨
    (3 ≤ (tokens line.toList).length ∧ isIndented line = false)))

theorem ofLine?_of_isSkipped {line : String} (skipped : isSkipped line = true)
    (style : FieldStyle) : ofLine? style line = none := by
  unfold isSkipped at skipped
  unfold ofLine?
  cases found : tokens line.toList with
  | nil => rfl
  | cons first rest =>
    rw [found] at skipped
    exact if_pos (of_decide_eq_true skipped)

/-- The fields of a line that has some and does not close the program. -/
theorem ofLine?_eq_some {line : String} {first : List Char} {rest : List (List Char)}
    (found : tokens line.toList = first :: rest) (present : isSkipped line = false)
    (continues : isEnd line = false) :
    ofLine? .columns line = some (ofTokens (isIndented line) first rest) ∧
      ofLine? .positional line = some (byPosition first rest) := by
  unfold isSkipped at present
  unfold isEnd at continues
  rw [found] at present continues
  have plain : first.head? ≠ some '.' := of_decide_eq_false present
  have other : first ≠ ['E', 'N', 'D'] := by simpa using continues
  constructor
  · simp only [ofLine?, found, if_neg plain, if_neg other, byColumns_eq found plain, isIndented]
  · simp only [ofLine?, found, if_neg plain, if_neg other]

/-- The fields of a line, as its tokens and its first column tell. -/
def ofTokens? (style : FieldStyle) (indented : Bool) : List (List Char) → Option Fields
  | [] => none
  | first :: rest =>
    if first.head? = some '.' then none
    else if first = ['E', 'N', 'D'] then
      some { label? := none, mnemonic := "END", operand? := rest.head?.map String.ofList }
    else match style with
      | .columns => some (ofTokens indented first rest)
      | .positional => some (byPosition first rest)

/-- The tokens of a line and whether it begins with a blank are all that counts. -/
theorem ofLine?_eq_ofTokens? (style : FieldStyle) (line : String) :
    ofLine? style line = ofTokens? style (isIndented line) (tokens line.toList) := by
  unfold ofLine?
  cases found : tokens line.toList with
  | nil => rfl
  | cons first rest =>
    unfold ofTokens?
    dsimp only
    by_cases comment : first.head? = some '.'
    · rw [if_pos comment, if_pos comment]
    · rw [if_neg comment, if_neg comment, byColumns_eq found comment]
      cases style <;> rfl

/-- Of the tokens of a line only the first three count. -/
theorem ofTokens?_take (style : FieldStyle) (indented : Bool) (found : List (List Char)) :
    ofTokens? style indented (found.take 3) = ofTokens? style indented found := by
  match found with
  | [] => rfl
  | [first] => rfl
  | [first, second] => rfl
  | first :: second :: third :: later => rfl

/-- By columns and by position the same fields are found in three cases; in all others, only one
of them finds a label. -/
theorem ofTokens_eq_byPosition_iff (indented : Bool) (first : List Char)
    (rest : List (List Char)) :
    ofTokens indented first rest = byPosition first rest ↔
      rest.length = 0 ∨ (rest.length = 1 ∧ indented = true) ∨
        (2 ≤ rest.length ∧ indented = false) := by
  match rest with
  | [] => simp [ofTokens, byPosition]
  | [second] => cases indented <;> simp [ofTokens, byPosition]
  | second :: third :: later => cases indented <;> simp [ofTokens, byPosition]

theorem ofLine?_styles_iff {line : String} (present : isSkipped line = false)
    (continues : isEnd line = false) :
    ofLine? .columns line = ofLine? .positional line ↔ FitsBothStyles line := by
  unfold FitsBothStyles
  cases found : tokens line.toList with
  | nil =>
    unfold isSkipped at present
    rw [found] at present
    cases present
  | cons first rest =>
    obtain ⟨columns, positional⟩ := ofLine?_eq_some found present continues
    rw [columns, positional, Option.some.injEq, ofTokens_eq_byPosition_iff, List.length_cons]
    simp only [Nat.add_eq_right, Nat.reduceEqDiff, Nat.reduceLeDiff]

end Fields

/-! ### Whole sources -/

/-- Under styles that divide the lines through the first `END` alike, a source is assembled
alike. -/
theorem assemble_congr_style (table : OpcodeTable) (options : Options) {source : String}
    {style other : FieldStyle}
    (same : ∀ line ∈ throughEnd (linesOf source),
      Fields.ofLine? style line = Fields.ofLine? other line) :
    assemble table { options with fieldStyle := style } source =
      assemble table { options with fieldStyle := other } source := by
  unfold assemble
  rw [Layout.ofLines_congr_style table options same]
  rfl

/-- The two styles divide a line alike if it is blank, a comment or closes the program. They
divide any other line alike exactly if it fits both of them. A source of such lines is assembled
alike under both, whatever stands behind the first `END`. -/
theorem fieldStyles_agree :
    (∀ line, Fields.isSkipped line = true ∨ Fields.isEnd line = true →
      Fields.ofLine? .columns line = Fields.ofLine? .positional line) ∧
    (∀ line, Fields.isSkipped line = false → Fields.isEnd line = false →
      (Fields.ofLine? .columns line = Fields.ofLine? .positional line ↔
        Fields.FitsBothStyles line)) ∧
    ∀ (table : OpcodeTable) (options : Options) (source : String),
      (∀ line ∈ throughEnd (linesOf source),
        Fields.isSkipped line = true ∨ Fields.isEnd line = true ∨ Fields.FitsBothStyles line) →
      assemble table { options with fieldStyle := .columns } source =
        assemble table { options with fieldStyle := .positional } source := by
  have special (line : String) (known : Fields.isSkipped line = true ∨ Fields.isEnd line = true) :
      Fields.ofLine? .columns line = Fields.ofLine? .positional line := by
    rcases known with skipped | ends
    · rw [Fields.ofLine?_of_isSkipped skipped, Fields.ofLine?_of_isSkipped skipped]
    · rw [Fields.ofLine?_of_isEnd ends, Fields.ofLine?_of_isEnd ends]
  refine ⟨special, fun line present continues => Fields.ofLine?_styles_iff present continues, ?_⟩
  intro table options source fits
  refine assemble_congr_style table options fun line member => ?_
  by_cases known : Fields.isSkipped line = true ∨ Fields.isEnd line = true
  · exact special line known
  · obtain ⟨present, continues⟩ := not_or.mp known
    have shape : Fields.FitsBothStyles line := by
      rcases fits line member with skipped | ends | shape
      · exact absurd skipped present
      · exact absurd ends continues
      · exact shape
    exact (Fields.ofLine?_styles_iff (Bool.eq_false_iff.mpr present)
      (Bool.eq_false_iff.mpr continues)).mpr shape

/-- A source whose lines fit both styles up to its `END`, and a line behind it that does not: by
columns the label of that line is `LOOP`, by position its mnemonic is. -/
theorem fieldStyles_agree_through_end :
    let source := "P START 10\n. note here\n LDA X\nX WORD 5\nEND P\nLOOP RSUB\n"
    (∀ line ∈ throughEnd (linesOf source),
      Fields.isSkipped line = true ∨ Fields.isEnd line = true ∨ Fields.FitsBothStyles line) ∧
    assemble .sicMachine { fieldStyle := .columns } source =
      assemble .sicMachine { fieldStyle := .positional } source ∧
    Fields.isSkipped "LOOP RSUB" = false ∧ Fields.isEnd "LOOP RSUB" = false ∧
    Fields.ofLine? .columns "LOOP RSUB" ≠ Fields.ofLine? .positional "LOOP RSUB" := by
  intro source
  have fits : ∀ line ∈ throughEnd (linesOf source),
      Fields.isSkipped line = true ∨ Fields.isEnd line = true ∨ Fields.FitsBothStyles line := by
    decide +kernel
  have present : Fields.isSkipped "LOOP RSUB" = false := by decide +kernel
  have continues : Fields.isEnd "LOOP RSUB" = false := by decide +kernel
  refine ⟨fits, fieldStyles_agree.2.2 .sicMachine {} source fits, present, continues, ?_⟩
  intro same
  have shape := (fieldStyles_agree.2.1 "LOOP RSUB" present continues).mp same
  revert shape
  decide +kernel

end SicAssembler
