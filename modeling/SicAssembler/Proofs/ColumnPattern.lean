/-
This file computes what the column pattern captures. The pattern can match a
line in many ways: a label may be cut short or left out, and a run of blanks or
of token characters may be divided anywhere. None of these ways is ever taken.
What follows a run in the pattern either cannot begin with a character of the
run, or succeeds wherever it begins, and in both cases the whole run is taken.
So the captured parts are tokens of the line, and all that the pattern decides
is which token stands for which field.
-/

import SicAssembler.Fields

namespace SicAssembler

/-! ### Runs of characters -/

/-- Whether the first character of a text is of the given class. -/
def beginsWith (accepts : Char → Bool) (text : List Char) : Bool := text.head?.any accepts

theorem beginsWith_dropWhile (accepts : Char → Bool) (text : List Char) :
    beginsWith accepts (text.dropWhile accepts) = false := by
  unfold beginsWith
  cases found : (text.dropWhile accepts).head? with
  | none => rfl
  | some character =>
    have refused := List.head?_dropWhile_not accepts text
    rw [found] at refused
    simpa using refused

namespace Pattern

variable {Name Result : Type} {accepts : Char → Bool}

/-- What cannot begin inside a run is matched behind the whole run. -/
theorem matchMany_of_refuses {next : List Char → Option Result}
    (refuses : ∀ text, beginsWith accepts text = true → next text = none) (text : List Char) :
    matchMany accepts next text = next (text.dropWhile accepts) := by
  induction text with
  | nil => rfl
  | cons character rest inductionHypothesis =>
    by_cases accepted : accepts character = true
    · rw [matchMany, if_pos accepted, inductionHypothesis, refuses (character :: rest) accepted,
        Option.or_none, List.dropWhile_cons_of_pos accepted]
    · rw [matchMany, if_neg accepted, List.dropWhile_cons_of_neg accepted]

/-- What succeeds anywhere is matched behind the whole run, since longer runs are preferred. -/
theorem matchMany_of_succeeds {next : List Char → Option Result}
    (succeeds : ∀ text, (next text).isSome = true) (text : List Char) :
    matchMany accepts next text = next (text.dropWhile accepts) := by
  induction text with
  | nil => rfl
  | cons character rest inductionHypothesis =>
    by_cases accepted : accepts character = true
    · rw [matchMany, if_pos accepted, inductionHypothesis, Option.or_of_isSome (succeeds _),
        List.dropWhile_cons_of_pos accepted]
    · rw [matchMany, if_neg accepted, List.dropWhile_cons_of_neg accepted]

/-- What was taken before the rest of a run is the run. -/
theorem taken_dropWhile (text : List Char) :
    taken text (text.dropWhile accepts) = text.takeWhile accepts := by
  have lengths : text.length - (text.dropWhile accepts).length =
      (text.takeWhile accepts).length := by
    have parts := congrArg List.length (List.takeWhile_append_dropWhile (p := accepts) (l := text))
    rw [List.length_append] at parts
    omega
  rw [taken, lengths]
  exact (List.prefix_iff_eq_take.mp (List.takeWhile_prefix accepts)).symm

/-- A run of at least one character begins with a character of its class. -/
theorem matchThen_atLeastOne {next : List Char → List (Name × List Char) → Option Result}
    {captured : List (Name × List Char)}
    (whole : ∀ text, matchMany accepts (fun rest => next rest captured) text =
      next (text.dropWhile accepts) captured) (text : List Char) :
    matchThen (atLeastOne accepts) text captured next =
      if beginsWith accepts text then next (text.dropWhile accepts) captured else none := by
  cases text with
  | nil => rfl
  | cons character rest =>
    show (if accepts character then matchMany accepts (fun rest => next rest captured) rest
      else none) = if accepts character then _ else none
    by_cases accepted : accepts character = true
    · rw [if_pos accepted, if_pos accepted, whole, List.dropWhile_cons_of_pos accepted]
    · rw [if_neg accepted, if_neg accepted]

end Pattern

/-! ### Runs and tokens -/

namespace Fields

theorem beginsWith_isTokenCharacter {text : List Char}
    (token : beginsWith isTokenCharacter text = true) : beginsWith isBlank text = false := by
  cases text with
  | nil => rfl
  | cons character rest =>
    have plain : (!isBlank character) = true := token
    exact (Bool.not_eq_true' _).mp plain

/-- Blanks before the first token do not count. -/
theorem tokens_dropWhile_isBlank (text : List Char) :
    tokens (text.dropWhile isBlank) = tokens text := by
  induction text with
  | nil => rfl
  | cons character rest inductionHypothesis =>
    by_cases blank : isBlank character = true
    · rw [List.dropWhile_cons_of_pos blank, tokens_cons_blank rest blank, inductionHypothesis]
    · rw [List.dropWhile_cons_of_neg blank]

/-- A token that ends at a blank, or at the end of the text, is the first token. -/
theorem tokens_append {token rest : List Char} (nonempty : token ≠ [])
    (plain : ∀ character ∈ token, isBlank character = false)
    (ended : beginsWith isTokenCharacter rest = false) :
    tokens (token ++ rest) = token :: tokens rest := by
  cases rest with
  | nil =>
    rw [List.append_nil, tokens, pieces_of_refused plain]
    simp [nonempty]
  | cons character later =>
    have blank : isBlank character = true := (Bool.not_eq_false' _).mp ended
    rw [tokens_cons_blank later blank, tokens, pieces_append_separator plain blank]
    simp [nonempty, tokens]

/-- A text that begins with a token character begins with its first token. -/
theorem tokens_of_beginsWith {text : List Char} (begins : beginsWith isTokenCharacter text = true) :
    tokens text =
      text.takeWhile isTokenCharacter :: tokens (text.dropWhile isTokenCharacter) := by
  have nonempty : text.takeWhile isTokenCharacter ≠ [] := by
    cases text with
    | nil => cases begins
    | cons character rest =>
      have accepted : isTokenCharacter character = true := begins
      rw [List.takeWhile_cons_of_pos accepted]
      exact List.cons_ne_nil _ _
  have plain : ∀ character ∈ text.takeWhile isTokenCharacter, isBlank character = false := by
    intro character member
    exact (Bool.not_eq_true' _).mp (List.all_eq_true.mp List.all_takeWhile character member)
  rw [← tokens_append nonempty plain (beginsWith_dropWhile isTokenCharacter text),
    List.takeWhile_append_dropWhile]

theorem eq_nil_of_beginsWith {text : List Char} (noBlank : beginsWith isBlank text = false)
    (noToken : beginsWith isTokenCharacter text = false) : text = [] := by
  cases text with
  | nil => rfl
  | cons character rest =>
    have blank : isBlank character = true := (Bool.not_eq_false' _).mp noToken
    rw [show isBlank character = false from noBlank] at blank
    cases blank

/-! ### The parts of the pattern -/

/-- The parts captured so far, the last one first. -/
abbrev Captured := List (Column × List Char)

theorem matchThen_tokenIn {column : Column} {next : List Char → Captured → Option Captured}
    {captured : Captured} (succeeds : ∀ text found, (next text found).isSome = true)
    (text : List Char) :
    (tokenIn column).matchThen text captured next =
      if beginsWith isTokenCharacter text then
        next (text.dropWhile isTokenCharacter)
          ((column, text.takeWhile isTokenCharacter) :: captured)
      else none := by
  let capturing : List Char → Captured → Option Captured := fun rest found =>
    next rest ((column, Pattern.taken text rest) :: found)
  have whole (part : List Char) :
      Pattern.matchMany isTokenCharacter (fun rest => capturing rest captured) part =
        capturing (part.dropWhile isTokenCharacter) captured :=
    Pattern.matchMany_of_succeeds (fun rest => succeeds rest _) part
  have run : (tokenIn column).matchThen text captured next =
      (Pattern.atLeastOne isTokenCharacter).matchThen text captured capturing := rfl
  rw [run, Pattern.matchThen_atLeastOne whole]
  simp only [capturing, Pattern.taken_dropWhile]

/-- A gap and a token behind it take up the next token, if there is one. -/
theorem matchThen_gap_cases (column : Column) {next : List Char → Captured → Option Captured}
    (succeeds : ∀ text found, (next text found).isSome = true) {text : List Char}
    (ended : beginsWith isTokenCharacter text = false) (captured : Captured) :
    (tokens text = [] ∧
      gap.matchThen text captured (fun rest found =>
        (tokenIn column).matchThen rest found next) = none) ∨
    ∃ token rest, tokens text = token :: tokens rest ∧
      beginsWith isTokenCharacter rest = false ∧
      gap.matchThen text captured (fun rest found =>
        (tokenIn column).matchThen rest found next) = next rest ((column, token) :: captured) := by
  let tokenNext : List Char → Captured → Option Captured := fun rest found =>
    (tokenIn column).matchThen rest found next
  have refuses (part : List Char) (blank : beginsWith isBlank part = true) :
      tokenNext part captured = none := by
    have noToken : ¬ beginsWith isTokenCharacter part = true := by
      intro token
      rw [beginsWith_isTokenCharacter token] at blank
      cases blank
    rw [show tokenNext part captured = _ from matchThen_tokenIn succeeds part, if_neg noToken]
  have run : gap.matchThen text captured tokenNext = _ :=
    Pattern.matchThen_atLeastOne (Pattern.matchMany_of_refuses refuses) text
  rw [show tokenNext (text.dropWhile isBlank) captured = _ from
    matchThen_tokenIn succeeds (text.dropWhile isBlank)] at run
  by_cases blank : beginsWith isBlank text = true
  · rw [if_pos blank] at run
    by_cases token : beginsWith isTokenCharacter (text.dropWhile isBlank) = true
    · rw [if_pos token] at run
      refine Or.inr ⟨_, _, ?_, beginsWith_dropWhile _ _, run⟩
      rw [← tokens_dropWhile_isBlank, tokens_of_beginsWith token]
    · rw [if_neg token] at run
      refine Or.inl ⟨?_, run⟩
      have nothing := eq_nil_of_beginsWith (beginsWith_dropWhile isBlank text)
        (Bool.eq_false_iff.mpr token)
      rw [← tokens_dropWhile_isBlank, nothing, tokens_nil]
  · rw [if_neg blank] at run
    refine Or.inl ⟨?_, run⟩
    rw [eq_nil_of_beginsWith (Bool.eq_false_iff.mpr blank) ended, tokens_nil]

/-- The captured parts with an operand, if there is one. -/
def withOperand (operand? : Option (List Char)) (captured : Captured) : Captured :=
  (operand?.map fun operand => (Column.operand, operand)).toList ++ captured

/-- The operand is the next token, if there is one. -/
theorem matchThen_operand {text : List Char} (ended : beginsWith isTokenCharacter text = false)
    (captured : Captured) :
    (Pattern.optional (.sequence gap (tokenIn .operand))).matchThen text captured
        (fun _ found => some found) =
      some (withOperand (tokens text).head? captured) := by
  show Option.or (gap.matchThen text captured fun rest found =>
    (tokenIn .operand).matchThen rest found fun _ found => some found) (some captured) = _
  have succeeds (part : List Char) (found : Captured) : (some found).isSome = true := rfl
  rcases matchThen_gap_cases .operand succeeds ended captured with
    ⟨nothing, run⟩ | ⟨token, rest, found, -, run⟩
  · rw [run, nothing]
    rfl
  · rw [run, found]
    rfl

/-- The pattern behind a label. -/
def behindLabel : Pattern Column :=
  .sequence gap (.sequence (tokenIn .mnemonic) (.optional (.sequence gap (tokenIn .operand))))

/-- The parts that the pattern behind a label captures, given the tokens there. -/
def capturedBehind (captured : Captured) : List (List Char) → Option Captured
  | [] => none
  | mnemonic :: rest => some (withOperand rest.head? ((.mnemonic, mnemonic) :: captured))

/-- Behind a label the next token is the mnemonic, and the one after it the operand. -/
theorem matchThen_behindLabel {text : List Char}
    (ended : beginsWith isTokenCharacter text = false) (captured : Captured) :
    behindLabel.matchThen text captured (fun _ found => some found) =
      capturedBehind captured (tokens text) := by
  let operandNext : List Char → Captured → Option Captured := fun rest found =>
    (Pattern.optional (.sequence gap (tokenIn .operand))).matchThen rest found
      fun _ found => some found
  have succeeds (rest : List Char) (found : Captured) : (operandNext rest found).isSome = true := by
    show (Option.or _ (some found)).isSome = true
    rw [Option.isSome_or, Option.isSome_some, Bool.or_true]
  show gap.matchThen text captured (fun rest found =>
    (tokenIn .mnemonic).matchThen rest found operandNext) = _
  rcases matchThen_gap_cases .mnemonic succeeds ended captured with
    ⟨nothing, run⟩ | ⟨token, rest, found, endedThere, run⟩
  · rw [run, nothing]
    rfl
  · rw [run, found]
    exact matchThen_operand endedThere _

/-- A gap is needed behind a label, or where the label is left out. -/
theorem matchThen_behindLabel_of_token {text : List Char}
    (begins : beginsWith isTokenCharacter text = true) (captured : Captured)
    (next : List Char → Captured → Option Captured) :
    behindLabel.matchThen text captured next = none := by
  have noBlank := beginsWith_isTokenCharacter begins
  cases text with
  | nil => rfl
  | cons character rest =>
    exact if_neg (Bool.eq_false_iff.mp noBlank)

/-- A label is the whole token that it begins. -/
theorem matchThen_label {character : Char} {rest : List Char}
    (starts : startsLabel character = true) {next : List Char → Captured → Option Captured}
    (refuses : ∀ text found, beginsWith isTokenCharacter text = true → next text found = none) :
    (Pattern.capture Column.label (.sequence (.one startsLabel) (.many isTokenCharacter))).matchThen
        (character :: rest) [] next =
      next ((character :: rest).dropWhile isTokenCharacter)
        [(.label, (character :: rest).takeWhile isTokenCharacter)] := by
  have token : isTokenCharacter character = true := (Bool.and_eq_true_iff.mp starts).2
  show (if startsLabel character then Pattern.matchMany isTokenCharacter (fun behind =>
    next behind [(.label, Pattern.taken (character :: rest) behind)]) rest else none) = _
  rw [if_pos starts, Pattern.matchMany_of_refuses (fun text begins => refuses text _ begins),
    ← List.dropWhile_cons_of_pos (l := rest) token, Pattern.taken_dropWhile]

/-! ### Fields by columns -/

/-- The fields of a line that is divided by columns, as its tokens and its first column tell. A
token that stands alone is a mnemonic wherever it stands. -/
def ofTokens (indented : Bool) (first : List Char) : List (List Char) → Fields
  | [] => { label? := none, mnemonic := String.ofList first, operand? := none }
  | second :: later =>
    if indented then
      { label? := none
        mnemonic := String.ofList first
        operand? := some (String.ofList second) }
    else
      { label? := some (String.ofList first)
        mnemonic := String.ofList second
        operand? := later.head?.map String.ofList }

/-- In a line that begins with a blank no label is captured. -/
theorem captures?_of_blank {line : List Char} (blank : beginsWith isBlank line = true) :
    columnPattern.captures? line = capturedBehind [] (tokens line) := by
  cases line with
  | nil => cases blank
  | cons character rest =>
    have ended : beginsWith isTokenCharacter (character :: rest) = false :=
      (Bool.not_eq_false' _).mpr blank
    have noLabel : ¬ startsLabel character = true := by
      rw [startsLabel, show isTokenCharacter character = false from ended, Bool.and_false]
      exact Bool.false_ne_true
    show Option.or (if startsLabel character then _ else none) _ = _
    rw [if_neg noLabel, Option.none_or]
    exact matchThen_behindLabel ended []

/-- In a line that begins with a token the label is that token. -/
theorem captures?_of_token {line : List Char} (begins : beginsWith isTokenCharacter line = true)
    (plain : line.head? ≠ some '.') :
    columnPattern.captures? line =
      capturedBehind [(.label, line.takeWhile isTokenCharacter)]
        (tokens (line.dropWhile isTokenCharacter)) := by
  have unlabelled : behindLabel.matchThen line [] (fun _ found => some found) = none :=
    matchThen_behindLabel_of_token begins [] _
  cases line with
  | nil => cases begins
  | cons character rest =>
    have starts : startsLabel character = true := by
      have other : (character != '.') = true := by simpa using plain
      rw [startsLabel, other, Bool.true_and]
      exact begins
    show Option.or _ (behindLabel.matchThen (character :: rest) [] fun _ found => some found) = _
    rw [unlabelled, Option.or_none]
    refine (matchThen_label starts fun text found token =>
      matchThen_behindLabel_of_token token found _).trans ?_
    exact matchThen_behindLabel (beginsWith_dropWhile _ _) _

/-- A line is divided by columns as its tokens and its first column tell. -/
theorem byColumns_eq {line first : List Char} {rest : List (List Char)}
    (found : tokens line = first :: rest) (plain : first.head? ≠ some '.') :
    byColumns line first = ofTokens (beginsWith isBlank line) first rest := by
  by_cases blank : beginsWith isBlank line = true
  · rw [byColumns, captures?_of_blank blank, found, blank]
    cases rest <;> rfl
  · have begins : beginsWith isTokenCharacter line = true := by
      cases token : beginsWith isTokenCharacter line with
      | true => rfl
      | false =>
        rw [eq_nil_of_beginsWith (Bool.eq_false_iff.mpr blank) token] at found
        cases found
    rw [tokens_of_beginsWith begins] at found
    obtain ⟨rfl, rfl⟩ := List.cons.inj found
    have column : line.head? ≠ some '.' := by
      cases line with
      | nil => exact nofun
      | cons character rest =>
        have accepted : isTokenCharacter character = true := begins
        rw [List.takeWhile_cons_of_pos accepted] at plain
        exact plain
    rw [byColumns, captures?_of_token begins column, Bool.eq_false_iff.mpr blank]
    cases tokens (line.dropWhile isTokenCharacter) with
    | nil => rfl
    | cons second later => cases later <;> rfl

end Fields

end SicAssembler
