/-
This file says which lines of a source a layout depends on. Lines without
fields only count for the numbers of those behind them, and a line whose first
token is `END` stops the walk whatever else stands in it. So a layout depends
on the lines through the first such line and on nothing behind it.
-/

import Mathlib.Data.List.Basic
import SicAssembler.Proofs.Placement

namespace SicAssembler

/-! ### Numbered lines -/

/-- The fields of the lines that have any, each with its line number, when the first line has the
given number. -/
def numberedFrom (style : FieldStyle) (first : Nat) (lines : List String) : List (Nat × Fields) :=
  (lines.zipIdx first).filterMap fun (line, number) =>
    (Fields.ofLine? style line).map fun fields => (number, fields)

theorem numberedFields_eq (style : FieldStyle) (lines : List String) :
    numberedFields style lines = numberedFrom style 1 lines := rfl

theorem numberedFrom_cons_of_none {style : FieldStyle} {line : String}
    (skipped : Fields.ofLine? style line = none) (first : Nat) (rest : List String) :
    numberedFrom style first (line :: rest) = numberedFrom style (first + 1) rest := by
  simp [numberedFrom, List.zipIdx_cons, skipped]

theorem numberedFrom_cons_of_some {style : FieldStyle} {line : String} {fields : Fields}
    (divided : Fields.ofLine? style line = some fields) (first : Nat) (rest : List String) :
    numberedFrom style first (line :: rest) =
      (first, fields) :: numberedFrom style (first + 1) rest := by
  simp [numberedFrom, List.zipIdx_cons, divided]

/-- Styles that divide every line alike give the same numbered fields. -/
theorem numberedFrom_congr {style other : FieldStyle} {lines : List String}
    (same : ∀ line ∈ lines, Fields.ofLine? style line = Fields.ofLine? other line) (first : Nat) :
    numberedFrom style first lines = numberedFrom other first lines := by
  refine List.filterMap_congr ?_
  rintro ⟨line, number⟩ member
  show (Fields.ofLine? style line).map (fun fields => (number, fields)) = _
  rw [same line (List.fst_mem_of_mem_zipIdx member)]

/-! ### The line that closes a program -/

namespace Fields

/-- Whether the first token of a line is `END`. -/
def isEnd (line : String) : Bool := (tokens line.toList).head? = some ['E', 'N', 'D']

/-- A line whose first token is `END` is divided alike in every style. -/
theorem ofLine?_of_isEnd {line : String} (ends : isEnd line = true) (style : FieldStyle) :
    ofLine? style line =
      some ⟨none, "END", (tokens line.toList).tail.head?.map String.ofList⟩ := by
  have first : (tokens line.toList).head? = some ['E', 'N', 'D'] := of_decide_eq_true ends
  obtain ⟨rest, found⟩ := List.head?_eq_some_iff.mp first
  rw [ofLine?, found]
  rfl

end Fields

/-- An end directive without a label is placed at the counter and leaves the cursor there. -/
theorem Cursor.place_end (cursor : Cursor) (table : OpcodeTable) (policy : Strictness)
    (line : Nat) (operand? : Option String) :
    cursor.place table policy line ⟨none, "END", operand?⟩ =
      .ok (⟨⟨none, "END", operand?⟩, line, cursor.counter, .finish⟩, cursor) := rfl

/-- What stands behind the end directive has no bearing on a walk. -/
theorem walk_cons_end (table : OpcodeTable) (policy : Strictness) (cursor : Cursor) (line : Nat)
    (operand? : Option String) (rest : List (Nat × Fields)) :
    walk table policy cursor ((line, ⟨none, "END", operand?⟩) :: rest) =
      .ok ⟨[⟨⟨none, "END", operand?⟩, line, cursor.counter, .finish⟩], cursor, true⟩ := by
  rw [walk, Cursor.place_end]
  rfl

/-- Walks that agree behind their first line agree. -/
theorem walk_cons_congr {table : OpcodeTable} {policy : Strictness}
    {rest others : List (Nat × Fields)}
    (same : ∀ cursor, walk table policy cursor rest = walk table policy cursor others)
    (cursor : Cursor) (entry : Nat × Fields) :
    walk table policy cursor (entry :: rest) = walk table policy cursor (entry :: others) := by
  obtain ⟨line, fields⟩ := entry
  rw [walk, walk]
  refine congrArg (fun next => cursor.place table policy line fields >>= next) (funext ?_)
  rintro ⟨statement, moved⟩
  simp only [same moved]

/-- The lines up to the first whose first token is `END`, that one included. -/
def throughEnd : List String → List String
  | [] => []
  | line :: rest => if Fields.isEnd line then [line] else line :: throughEnd rest

/-- A walk depends on the lines through the first `END` only. -/
theorem walk_throughEnd (table : OpcodeTable) (policy : Strictness) (style : FieldStyle)
    (lines : List String) (first : Nat) (cursor : Cursor) :
    walk table policy cursor (numberedFrom style first lines) =
      walk table policy cursor (numberedFrom style first (throughEnd lines)) := by
  induction lines generalizing first cursor with
  | nil => rfl
  | cons line rest inductionHypothesis =>
    by_cases ends : Fields.isEnd line = true
    · have divided := Fields.ofLine?_of_isEnd ends style
      rw [throughEnd, if_pos ends, numberedFrom_cons_of_some divided,
        numberedFrom_cons_of_some divided, walk_cons_end, walk_cons_end]
    · rw [throughEnd, if_neg ends]
      cases divided : Fields.ofLine? style line with
      | none =>
        rw [numberedFrom_cons_of_none divided, numberedFrom_cons_of_none divided]
        exact inductionHypothesis (first + 1) cursor
      | some fields =>
        rw [numberedFrom_cons_of_some divided, numberedFrom_cons_of_some divided]
        exact walk_cons_congr (inductionHypothesis (first + 1)) cursor (first, fields)

/-- Under styles that divide the lines through the first `END` alike, a source is laid out
alike. -/
theorem Layout.ofLines_congr_style (table : OpcodeTable) (options : Options)
    {style other : FieldStyle} {lines : List String}
    (same : ∀ line ∈ throughEnd lines, Fields.ofLine? style line = Fields.ofLine? other line) :
    Layout.ofLines table { options with fieldStyle := style } lines =
      Layout.ofLines table { options with fieldStyle := other } lines := by
  unfold Layout.ofLines
  simp only [numberedFields_eq]
  rw [walk_throughEnd, numberedFrom_congr same, ← walk_throughEnd]

end SicAssembler
