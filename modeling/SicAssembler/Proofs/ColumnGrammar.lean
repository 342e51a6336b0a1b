/-
This file proves that dividing a line by columns computes a grammar of tokens.
Two things are said about the tokens and the pattern before the grammar can be
stated on its own terms.

A pattern can match a text in many ways, and which way counts is a matter of
preference. The ways are listed in order of preference: of two alternatives all
ways of the first come before those of the second, and a run of characters is
tried from the longest on. The matcher never makes that list. It tries one way
after the other and stops at the first that succeeds, and this is the head of
the list.

The tokens of a line are its maximal runs of characters that are not blank.
Every text has exactly one list of such runs, so a grammar may speak of them.
-/

import SicAssembler.Proofs.FieldStyles

namespace SicAssembler

/-! ### Ways to match a pattern -/

namespace Pattern

variable {Name Result : Type}

/-- What remains of a text behind a run of accepted characters, the longest run first. -/
def behindRuns (accepts : Char → Bool) : List Char → List (List Char)
  | [] => [[]]
  | character :: rest =>
    if accepts character then behindRuns accepts rest ++ [character :: rest]
    else [character :: rest]

/-- The ways in which a pattern matches at the start of a text, in order of preference, each with
what remains of the text and with the parts captured. -/
def ways : Pattern Name → List Char → List (List Char × List (Name × List Char))
  | one _, [] => []
  | one accepts, character :: rest => if accepts character then [(rest, [])] else []
  | many accepts, text => (behindRuns accepts text).map fun rest => (rest, [])
  | sequence first second, text =>
    (ways first text).flatMap fun way =>
      (ways second way.1).map fun later => (later.1, later.2 ++ way.2)
  | optional pattern, text => ways pattern text ++ [(text, [])]
  | capture name pattern, text =>
    (ways pattern text).map fun way => (way.1, (name, taken text way.1) :: way.2)

theorem matchMany_eq_findSome? (accepts : Char → Bool) (next : List Char → Option Result)
    (text : List Char) :
    matchMany accepts next text = (behindRuns accepts text).findSome? next := by
  induction text with
  | nil => simp [matchMany, behindRuns]
  | cons character rest inductionHypothesis =>
    rw [matchMany, behindRuns]
    split
    · rw [List.findSome?_append, inductionHypothesis, List.findSome?_singleton]
    · rw [List.findSome?_singleton]

theorem findSome?_flatMap {Item Other : Type} (items : List Item) (expand : Item → List Other)
    (next : Other → Option Result) :
    (items.flatMap expand).findSome? next =
      items.findSome? fun item => (expand item).findSome? next := by
  induction items with
  | nil => rfl
  | cons item rest inductionHypothesis =>
    rw [List.flatMap_cons, List.findSome?_append, inductionHypothesis, List.findSome?_cons]
    cases (expand item).findSome? next <;> rfl

/-- Matching succeeds in the first way, in order of preference, in which what follows succeeds. -/
theorem matchThen_eq_findSome? (pattern : Pattern Name) (text : List Char)
    (captured : List (Name × List Char))
    (next : List Char → List (Name × List Char) → Option Result) :
    pattern.matchThen text captured next =
      (pattern.ways text).findSome? fun way => next way.1 (way.2 ++ captured) := by
  induction pattern generalizing text captured next with
  | one accepts =>
    cases text with
    | nil => rfl
    | cons character rest =>
      rw [matchThen, ways]
      split
      · rw [List.findSome?_singleton, List.nil_append]
      · rfl
  | many accepts =>
    rw [matchThen, ways, matchMany_eq_findSome?, List.findSome?_map]
    rfl
  | sequence first second firstHypothesis secondHypothesis =>
    rw [matchThen, ways, firstHypothesis, findSome?_flatMap]
    refine congrArg (List.findSome? · (ways first text)) (funext fun way => ?_)
    rw [secondHypothesis, List.findSome?_map]
    simp only [Function.comp_def, List.append_assoc]
  | optional pattern inductionHypothesis =>
    rw [matchThen, ways, inductionHypothesis, List.findSome?_append, List.findSome?_singleton,
      List.nil_append]
  | capture name pattern inductionHypothesis =>
    rw [matchThen, ways, inductionHypothesis, List.findSome?_map]
    rfl

theorem captures?_eq_head? (pattern : Pattern Name) (text : List Char) :
    pattern.captures? text = (pattern.ways text).head?.map Prod.snd := by
  rw [captures?, matchThen_eq_findSome?]
  cases pattern.ways text with
  | nil => rfl
  | cons way others => simp

end Pattern

/-! ### Maximal runs -/

/-- The maximal runs of characters of a text that are not blank, in order. -/
inductive MaximalRuns : List Char → List (List Char) → Prop where
  | nil : MaximalRuns [] []
  | blank {character : Char} {rest : List Char} {runs : List (List Char)}
      (separates : isBlank character = true) (later : MaximalRuns rest runs) :
      MaximalRuns (character :: rest) runs
  /-- A run goes on to the next blank, or to the end of the text. -/
  | run {run rest : List Char} {runs : List (List Char)} (nonempty : run ≠ [])
      (plain : ∀ character ∈ run, isBlank character = false)
      (ended : ∀ character ∈ rest.head?, isBlank character = true)
      (later : MaximalRuns rest runs) : MaximalRuns (run ++ rest) (run :: runs)

theorem beginsWith_isTokenCharacter_eq_false_iff {text : List Char} :
    beginsWith Fields.isTokenCharacter text = false ↔
      ∀ character ∈ text.head?, isBlank character = true := by
  cases text with
  | nil => simp [beginsWith]
  | cons character rest => simp [beginsWith, Fields.isTokenCharacter]

theorem MaximalRuns.eq_tokens {text : List Char} {runs : List (List Char)}
    (found : MaximalRuns text runs) : runs = tokens text := by
  induction found with
  | nil => rfl
  | blank separates later inductionHypothesis =>
    rw [tokens_cons_blank _ separates, inductionHypothesis]
  | run nonempty plain ended later inductionHypothesis =>
    rw [Fields.tokens_append nonempty plain (beginsWith_isTokenCharacter_eq_false_iff.mpr ended),
      inductionHypothesis]

/-- Every text has maximal runs, and they are its tokens. -/
theorem maximalRuns_tokens (text : List Char) : MaximalRuns text (tokens text) := by
  match text with
  | [] => exact .nil
  | character :: rest =>
    by_cases separates : isBlank character = true
    · rw [tokens_cons_blank rest separates]
      exact .blank separates (maximalRuns_tokens rest)
    · have begins : Fields.isTokenCharacter character = true :=
        (Bool.not_eq_true' _).mpr (Bool.eq_false_iff.mpr separates)
      have found : tokens (character :: rest) = _ := Fields.tokens_of_beginsWith begins
      have first : (character :: rest).takeWhile Fields.isTokenCharacter ∈
          tokens (character :: rest) := by
        rw [found]
        exact List.mem_cons_self
      have shorter : ((character :: rest).dropWhile Fields.isTokenCharacter).length <
          (character :: rest).length := by
        rw [List.dropWhile_cons_of_pos begins]
        exact Nat.lt_succ_of_le (List.dropWhile_sublist _).length_le
      have runs := MaximalRuns.run (ne_nil_of_mem_tokens first)
        (fun _ inside => isBlank_eq_false_of_mem_tokens first inside)
        (beginsWith_isTokenCharacter_eq_false_iff.mp (beginsWith_dropWhile _ _))
        (maximalRuns_tokens ((character :: rest).dropWhile Fields.isTokenCharacter))
      rw [List.takeWhile_append_dropWhile, ← found] at runs
      exact runs
termination_by text.length
decreasing_by
  · exact Nat.lt_succ_self _
  · exact shorter

theorem maximalRuns_iff {text : List Char} {runs : List (List Char)} :
    MaximalRuns text runs ↔ runs = tokens text := by
  constructor
  · exact MaximalRuns.eq_tokens
  · rintro rfl
    exact maximalRuns_tokens text

/-! ### The grammar -/

namespace Fields

/-- Whether a token neither begins a comment nor closes the program. -/
def IsOrdinary (token : List Char) : Prop := token.head? ≠ some '.' ∧ token ≠ ['E', 'N', 'D']

/-- The law of fields by columns, for a line with the given tokens. -/
structure ColumnLaw (line : String) (found : List (List Char)) : Prop where
  /-- Blank lines and comments have no fields, and all other lines have some. -/
  skipped_iff : ofLine? .columns line = none ↔
    found = [] ∨ ∃ first rest, found = first :: rest ∧ first.head? = some '.'
  /-- A line that closes the program has no label, wherever it starts. -/
  closing : ∀ rest, found = ['E', 'N', 'D'] :: rest →
    ofLine? .columns line = some ⟨none, "END", rest.head?.map String.ofList⟩
  /-- A line that begins with a blank has no label. -/
  indented : ∀ first rest, found = first :: rest → IsOrdinary first → isIndented line = true →
    ofLine? .columns line = some ⟨none, String.ofList first, rest.head?.map String.ofList⟩
  /-- A line of two or more tokens from the first column on has a label. -/
  labelled : ∀ first second rest, found = first :: second :: rest → IsOrdinary first →
    isIndented line = false →
      ofLine? .columns line =
        some ⟨some (String.ofList first), String.ofList second, rest.head?.map String.ofList⟩
  /-- A token that stands alone in the first column is a mnemonic. -/
  alone : ∀ first, found = [first] → IsOrdinary first → isIndented line = false →
    ofLine? .columns line = some ⟨none, String.ofList first, none⟩

theorem ofTokens?_eq_none_iff {style : FieldStyle} {isIndented : Bool}
    {found : List (List Char)} :
    ofTokens? style isIndented found = none ↔
      found = [] ∨ ∃ first rest, found = first :: rest ∧ first.head? = some '.' := by
  cases found with
  | nil => simp [ofTokens?]
  | cons first rest =>
    unfold ofTokens?
    dsimp only
    by_cases comment : first.head? = some '.'
    · simp [comment]
    · rw [if_neg comment]
      by_cases ends : first = ['E', 'N', 'D']
      · simp [ends]
      · cases style <;> simp [comment, ends]

/-- The fields by columns of a line that goes on. -/
theorem ofTokens?_columns {first : List Char} (ordinary : IsOrdinary first) (isIndented : Bool)
    (rest : List (List Char)) :
    ofTokens? .columns isIndented (first :: rest) = some (ofTokens isIndented first rest) := by
  rw [ofTokens?, if_neg ordinary.1, if_neg ordinary.2]

theorem columnLaw_tokens (line : String) : ColumnLaw line (tokens line.toList) := by
  constructor
  case skipped_iff => rw [ofLine?_eq_ofTokens?, ofTokens?_eq_none_iff]
  case closing =>
    intro rest found
    rw [ofLine?_eq_ofTokens?, found]
    rfl
  case indented =>
    intro first rest found ordinary blank
    rw [ofLine?_eq_ofTokens?, found, ofTokens?_columns ordinary, blank]
    cases rest <;> rfl
  case labelled =>
    intro first second rest found ordinary column
    rw [ofLine?_eq_ofTokens?, found, ofTokens?_columns ordinary, column]
    rfl
  case alone =>
    intro first found ordinary _
    rw [ofLine?_eq_ofTokens?, found, ofTokens?_columns ordinary]
    rfl

/-- Dividing a line by columns follows the grammar. The pattern is matched in the first of all ways
in order of preference, every line has one list of maximal runs, and the fields are as these and
the first column tell. -/
theorem columns_follow_grammar :
    (∀ text, columnPattern.captures? text = (columnPattern.ways text).head?.map Prod.snd) ∧
    ∀ line : String, ∃ runs, (∀ others, MaximalRuns line.toList others ↔ others = runs) ∧
      ColumnLaw line runs :=
  ⟨columnPattern.captures?_eq_head?, fun line =>
    ⟨tokens line.toList, fun _ => maximalRuns_iff, columnLaw_tokens line⟩⟩

/-- A line with a full stop inside its label and at the start of its operand, divided by a no-break
space, a line feed and an em space. -/
theorem columns_follow_grammar_across_blanks :
    let line := "A.B\u00A0LDA\n.X\u2003Y "
    ∃ runs, MaximalRuns line.toList runs ∧
      ofLine? .columns line = some ⟨some "A.B", "LDA", some ".X"⟩ := by
  intro line
  obtain ⟨runs, unique, law⟩ := columns_follow_grammar.2 line
  have found : tokens line.toList = runs := (unique _).mp (maximalRuns_tokens _)
  have listed : tokens line.toList =
      ["A.B".toList, "LDA".toList, ".X".toList, "Y".toList] := by
    decide +kernel
  refine ⟨runs, (unique runs).mpr rfl, ?_⟩
  exact law.labelled _ _ _ (found.symm.trans listed) ⟨by decide, by decide⟩ (by decide +kernel)

end Fields

end SicAssembler
