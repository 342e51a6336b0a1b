/-
This file proves that the layout of a source behind its fields is irrelevant. A
text is cut at its line feeds, and a carriage return before one of them is
dropped; but a carriage return is a blank, and blanks at the end of a line
change neither its tokens nor its first column, so a line has the same fields
with it and without it. For the same reason line feeds may as well be written
as a carriage return and a line feed, and blanks may be added to any line. The
sidecar quotes lines without the blanks at their end, so it stays the same too.

Of the tokens only the first three count, and what is added behind a blank only
adds tokens. So a line that has three of them may go on with any text.
-/

import Mathlib.Data.List.Forall2
import SicAssembler.Proofs.FieldStyles

namespace SicAssembler

/-! ### Tokens and blanks at the end -/

/-- A separator cuts a text in two, whatever stands before it. -/
theorem pieces_append_cons {separator : Char → Bool} {character : Char}
    (accepted : separator character = true) (text rest : List Char) :
    pieces separator (text ++ character :: rest) =
      pieces separator text ++ pieces separator rest := by
  induction text with
  | nil => exact pieces_cons_separator rest accepted
  | cons first text inductionHypothesis =>
    rw [List.cons_append, pieces_cons, pieces_cons, inductionHypothesis]
    split
    · rfl
    · obtain ⟨piece, others, found⟩ := List.exists_cons_of_ne_nil (pieces_ne_nil separator text)
      rw [found]
      rfl

/-- Tokens are not joined across a blank. -/
theorem tokens_append_cons {character : Char} (blank : isBlank character = true)
    (text rest : List Char) :
    tokens (text ++ character :: rest) = tokens text ++ tokens rest := by
  rw [tokens, pieces_append_cons blank, List.filter_append]
  rfl

/-- Whether all characters of a text are blank. -/
def IsBlankText (text : List Char) : Prop := ∀ character ∈ text, isBlank character = true

theorem IsBlankText.tokens_eq_nil {text : List Char} (blank : IsBlankText text) :
    tokens text = [] := by
  induction text with
  | nil => rfl
  | cons character rest inductionHypothesis =>
    obtain ⟨first, later⟩ := List.forall_mem_cons.mp blank
    rw [tokens_cons_blank rest first]
    exact inductionHypothesis later

theorem IsBlankText.tokens_append {added : List Char} (blank : IsBlankText added)
    (line : List Char) : tokens (line ++ added) = tokens line := by
  cases added with
  | nil => rw [List.append_nil]
  | cons character rest =>
    obtain ⟨first, later⟩ := List.forall_mem_cons.mp blank
    have nothing : tokens rest = [] := IsBlankText.tokens_eq_nil later
    rw [tokens_append_cons first, nothing, List.append_nil]

theorem IsBlankText.trimEnd_append {added : List Char} (blank : IsBlankText added)
    (line : List Char) : trimEnd (line ++ added) = trimEnd line := by
  rw [trimEnd, List.reverse_append, List.dropWhile_append_of_pos, ← trimEnd]
  exact fun character member => blank character (List.mem_reverse.mp member)

theorem isBlankText_return : IsBlankText ['\r'] :=
  List.forall_mem_singleton.mpr (by decide)

/-! ### The fields of a line -/

namespace Fields

/-- Two lines have the same fields if they agree in their first three tokens and, unless there
are none, in the first column. -/
theorem ofLine?_congr {style : FieldStyle} {line other : String}
    (same : (tokens line.toList).take 3 = (tokens other.toList).take 3)
    (column : tokens line.toList ≠ [] → isIndented line = isIndented other) :
    ofLine? style line = ofLine? style other := by
  rw [ofLine?_eq_ofTokens?, ofLine?_eq_ofTokens?, ← ofTokens?_take, ← ofTokens?_take _ _ (tokens
    other.toList), ← same]
  by_cases empty : tokens line.toList = []
  · rw [empty]
    rfl
  · rw [column empty]

/-- What is added to a line that has tokens does not change its first column. -/
theorem isIndented_append {line : List Char} (nonempty : tokens line ≠ []) (added : List Char) :
    isIndented (String.ofList (line ++ added)) = isIndented (String.ofList line) := by
  cases line with
  | nil => exact absurd tokens_nil nonempty
  | cons character rest =>
    unfold isIndented
    rw [String.toList_ofList, String.toList_ofList]
    rfl

theorem ofLine?_append {style : FieldStyle} {line added : List Char}
    (same : (tokens (line ++ added)).take 3 = (tokens line).take 3) :
    ofLine? style (String.ofList (line ++ added)) = ofLine? style (String.ofList line) := by
  symm
  refine ofLine?_congr ?_ fun nonempty => ?_
  · rw [String.toList_ofList, String.toList_ofList, same]
  · rw [String.toList_ofList] at nonempty
    exact (isIndented_append nonempty added).symm

/-- Blanks at the end of a line do not change its fields. -/
theorem ofLine?_append_blanks (style : FieldStyle) {added : List Char} (blank : IsBlankText added)
    (line : List Char) :
    ofLine? style (String.ofList (line ++ added)) = ofLine? style (String.ofList line) :=
  ofLine?_append (by rw [blank.tokens_append])

theorem ofLine?_append_return (style : FieldStyle) (line : List Char) :
    ofLine? style (String.ofList (line ++ ['\r'])) = ofLine? style (String.ofList line) :=
  ofLine?_append_blanks style isBlankText_return line

/-- Nor does any text behind a blank, if the line has three tokens already. -/
theorem ofLine?_append_note (style : FieldStyle) {line added : List Char}
    (enough : 3 ≤ (tokens line).length) (divided : beginsWith isBlank added = true) :
    ofLine? style (String.ofList (line ++ added)) = ofLine? style (String.ofList line) := by
  refine ofLine?_append ?_
  cases added with
  | nil => cases divided
  | cons character rest =>
    rw [tokens_append_cons divided, List.take_append_of_le_length enough]

end Fields

/-! ### Lines and the pieces between line feeds -/

theorem dropReturn_cases (text : List Char) :
    dropReturn text = text ∨ text = dropReturn text ++ ['\r'] := by
  unfold dropReturn
  split
  · next ends => exact Or.inr (List.dropLast_append_getLast? _ ends).symm
  · exact Or.inl rfl

theorem trimEnd_dropReturn (text : List Char) : trimEnd (dropReturn text) = trimEnd text := by
  rcases dropReturn_cases text with same | ends
  · rw [same]
  · conv_rhs => rw [ends, isBlankText_return.trimEnd_append]

theorem Fields.ofLine?_dropReturn (style : FieldStyle) (text : List Char) :
    ofLine? style (String.ofList (dropReturn text)) = ofLine? style (String.ofList text) := by
  rcases dropReturn_cases text with same | ends
  · rw [same]
  · conv_rhs => rw [ends, ofLine?_append_return]

theorem numberedFrom_cons_congr {style : FieldStyle} {line other : String} {first : Nat}
    {rest others : List String} (here : Fields.ofLine? style line = Fields.ofLine? style other)
    (later : numberedFrom style (first + 1) rest = numberedFrom style (first + 1) others) :
    numberedFrom style first (line :: rest) = numberedFrom style first (other :: others) := by
  cases divided : Fields.ofLine? style line with
  | none =>
    rw [numberedFrom_cons_of_none divided, numberedFrom_cons_of_none (here.symm.trans divided),
      later]
  | some fields =>
    rw [numberedFrom_cons_of_some divided, numberedFrom_cons_of_some (here.symm.trans divided),
      later]

/-- Lines that have the same fields one by one have the same numbered fields. -/
theorem numberedFrom_congr_lines {style : FieldStyle} {lines others : List String}
    (same : List.Forall₂ (fun line other =>
      Fields.ofLine? style line = Fields.ofLine? style other) lines others) (first : Nat) :
    numberedFrom style first lines = numberedFrom style first others := by
  induction same generalizing first with
  | nil => rfl
  | cons here _ inductionHypothesis =>
    exact numberedFrom_cons_congr here (inductionHypothesis (first + 1))

/-- The lines of a text have the fields of the pieces between its line feeds: neither a carriage
return that is dropped nor an empty last piece has any bearing. -/
theorem numberedFrom_linesOfPieces (style : FieldStyle) (found : List (List Char)) (first : Nat) :
    numberedFrom style first ((linesOfPieces found).map String.ofList) =
      numberedFrom style first (found.map String.ofList) := by
  fun_induction linesOfPieces found generalizing first with
  | case1 => rfl
  | case2 last empty =>
    rw [List.isEmpty_iff.mp empty]
    rfl
  | case3 last filled => rfl
  | case4 piece next rest inductionHypothesis =>
    exact numberedFrom_cons_congr (Fields.ofLine?_dropReturn style piece)
      (inductionHypothesis (first + 1))

/-- The text without the blanks at its end at an index, or nothing if there is none. -/
def trimmedAt (found : List (List Char)) (index : Nat) : List Char :=
  (found[index]?.map trimEnd).getD []

theorem trimmedAt_cons (piece : List Char) (rest : List (List Char)) (index : Nat) :
    trimmedAt (piece :: rest) index =
      match index with
      | 0 => trimEnd piece
      | index + 1 => trimmedAt rest index := by
  cases index <;> rfl

theorem trimmedAt_linesOfPieces (found : List (List Char)) (index : Nat) :
    trimmedAt (linesOfPieces found) index = trimmedAt found index := by
  fun_induction linesOfPieces found generalizing index with
  | case1 => rfl
  | case2 last empty =>
    rw [List.isEmpty_iff.mp empty]
    cases index <;> rfl
  | case3 last filled => rfl
  | case4 piece next rest inductionHypothesis =>
    rw [trimmedAt_cons, trimmedAt_cons]
    cases index with
    | zero => exact trimEnd_dropReturn piece
    | succ index => exact inductionHypothesis index

theorem trimmedAt_congr {found others : List (List Char)}
    (same : List.Forall₂ (fun piece other => trimEnd piece = trimEnd other) found others)
    (index : Nat) : trimmedAt found index = trimmedAt others index := by
  induction same generalizing index with
  | nil => rfl
  | cons here _ inductionHypothesis =>
    rw [trimmedAt_cons, trimmedAt_cons]
    cases index with
    | zero => exact here
    | succ index => exact inductionHypothesis index

/-! ### Sources whose lines are changed one by one -/

/-- Whether two texts have as many pieces between line feeds, and each piece of the second is a
change of that of the first. -/
def ChangedLines (change : List Char → List Char → Prop) (source changed : String) : Prop :=
  List.Forall₂ change (pieces (· = '\n') source.toList) (pieces (· = '\n') changed.toList)

section

variable {change : List Char → List Char → Prop} {source changed : String}

/-- A change that leaves the fields of each line alone leaves the assembly alone. -/
theorem ChangedLines.assemble_eq {options : Options} (changes : ChangedLines change source changed)
    (keeps : ∀ line other, change line other →
      Fields.ofLine? options.fieldStyle (String.ofList other) =
        Fields.ofLine? options.fieldStyle (String.ofList line)) (table : OpcodeTable) :
    assemble table options changed = assemble table options source := by
  have same : List.Forall₂ (fun line other =>
      Fields.ofLine? options.fieldStyle line = Fields.ofLine? options.fieldStyle other)
      ((pieces (· = '\n') source.toList).map String.ofList)
      ((pieces (· = '\n') changed.toList).map String.ofList) := by
    rw [List.forall₂_map_left_iff, List.forall₂_map_right_iff]
    exact changes.imp fun line other changed => (keeps line other changed).symm
  have fields : numberedFields options.fieldStyle (linesOf changed) =
      numberedFields options.fieldStyle (linesOf source) := by
    rw [numberedFields_eq, numberedFields_eq, linesOf, linesOf, lines, lines,
      numberedFrom_linesOfPieces, numberedFrom_linesOfPieces, numberedFrom_congr_lines same]
  unfold assemble Layout.ofLines
  rw [fields]

/-- A change that leaves each line alone but for the blanks at its end leaves the sidecar alone. -/
theorem ChangedLines.sidecar_eq (changes : ChangedLines change source changed)
    (keeps : ∀ line other, change line other → trimEnd other = trimEnd line)
    (assembly : Assembly) : assembly.sidecar changed = assembly.sidecar source := by
  have quoted (text : String) (index : Nat) :
      ((linesOf text)[index]?.map fun line => String.ofList (trimEnd line.toList)).getD "" =
        String.ofList (trimmedAt (pieces (· = '\n') text.toList) index) := by
    rw [← trimmedAt_linesOfPieces, trimmedAt, linesOf, lines, List.getElem?_map]
    cases (linesOfPieces (pieces (· = '\n') text.toList))[index]? with
    | none => rfl
    | some line => simp
  have trimmed := trimmedAt_congr (changes.imp fun line other changed =>
    (keeps line other changed).symm)
  unfold Assembly.sidecar
  refine congrArg (fun lines => Sidecar.mk _ _ _ lines _) (List.map_congr_left ?_)
  intro statement _
  simp only [Assembly.sidecarLine, quoted, trimmed]

end

/-! ### Blanks and notes at the end of lines -/

/-- Whether a line is another one with a text added to it, at its very end or before a carriage
return there. -/
inductive AddedTo (added : List Char) : List Char → List Char → Prop where
  | atEnd (line : List Char) : AddedTo added line (line ++ added)
  | beforeReturn (line : List Char) : AddedTo added (line ++ ['\r']) (line ++ added ++ ['\r'])

/-- Whether a line is another one with blanks added to it, perhaps none. -/
def BlanksAdded (line other : List Char) : Prop :=
  ∃ added, IsBlankText added ∧ AddedTo added line other

/-- Whether a line is another one, or one of at least three tokens with a blank and any text added
to it. -/
def NoteAdded (line other : List Char) : Prop :=
  other = line ∨ 3 ≤ (tokens line).length ∧
    ∃ added, beginsWith isBlank added = true ∧ AddedTo added line other

theorem BlanksAdded.ofLine?_eq {line other : List Char} (changed : BlanksAdded line other)
    (style : FieldStyle) :
    Fields.ofLine? style (String.ofList other) = Fields.ofLine? style (String.ofList line) := by
  obtain ⟨added, blank, place⟩ := changed
  cases place with
  | atEnd => exact Fields.ofLine?_append_blanks style blank line
  | beforeReturn line =>
    rw [Fields.ofLine?_append_return, Fields.ofLine?_append_return,
      Fields.ofLine?_append_blanks style blank]

theorem BlanksAdded.trimEnd_eq {line other : List Char} (changed : BlanksAdded line other) :
    trimEnd other = trimEnd line := by
  obtain ⟨added, blank, place⟩ := changed
  cases place with
  | atEnd => exact blank.trimEnd_append line
  | beforeReturn line =>
    rw [isBlankText_return.trimEnd_append, isBlankText_return.trimEnd_append,
      blank.trimEnd_append]

theorem NoteAdded.ofLine?_eq {line other : List Char} (changed : NoteAdded line other)
    (style : FieldStyle) :
    Fields.ofLine? style (String.ofList other) = Fields.ofLine? style (String.ofList line) := by
  rcases changed with rfl | ⟨enough, added, divided, place⟩
  · rfl
  · cases place with
    | atEnd => exact Fields.ofLine?_append_note style enough divided
    | beforeReturn line =>
      rw [isBlankText_return.tokens_append] at enough
      rw [Fields.ofLine?_append_return, Fields.ofLine?_append_return,
        Fields.ofLine?_append_note style enough divided]

/-! ### Line feeds with carriage returns -/

/-- A text in which a carriage return is put before every line feed. -/
def withReturns (text : String) : String :=
  String.ofList (text.toList.flatMap fun character =>
    if character = '\n' then ['\r', '\n'] else [character])

theorem BlanksAdded.cons {line other : List Char} (changed : BlanksAdded line other)
    (character : Char) : BlanksAdded (character :: line) (character :: other) := by
  obtain ⟨added, blank, place⟩ := changed
  refine ⟨added, blank, ?_⟩
  cases place with
  | atEnd => exact .atEnd (character :: line)
  | beforeReturn line => exact .beforeReturn (character :: line)

theorem forall₂_extendFirst {found others : List (List Char)}
    (changed : List.Forall₂ BlanksAdded found others) (character : Char) :
    List.Forall₂ BlanksAdded (extendFirst character found) (extendFirst character others) := by
  cases changed with
  | nil => exact .cons ⟨[], List.forall_mem_nil _, .atEnd [character]⟩ .nil
  | cons first rest => exact .cons (first.cons character) rest

/-- Putting a carriage return before every line feed adds it to every line but the last. -/
theorem changedLines_withReturns (source : String) :
    ChangedLines BlanksAdded source (withReturns source) := by
  unfold ChangedLines withReturns
  rw [String.toList_ofList]
  induction source.toList with
  | nil => exact .cons ⟨[], List.forall_mem_nil _, .atEnd []⟩ .nil
  | cons character rest inductionHypothesis =>
    rw [List.flatMap_cons]
    by_cases feed : character = '\n'
    -- The piece before a line feed is empty here: what precedes it is added by `extendFirst`.
    · rw [if_pos feed, feed]
      exact .cons ⟨['\r'], isBlankText_return, .atEnd []⟩ inductionHypothesis
    · have refused : decide (character = '\n') = false := decide_eq_false feed
      rw [if_neg feed, List.singleton_append, pieces_cons_other _ refused,
        pieces_cons_other _ refused]
      exact forall₂_extendFirst inductionHypothesis character

/-! ### The whole run -/

theorem ChangedLines.blanks {source changed : String}
    (changes : ChangedLines BlanksAdded source changed) (table : OpcodeTable)
    (options : Options) :
    assemble table options changed = assemble table options source ∧
      assembleWithSidecar table options changed = assembleWithSidecar table options source := by
  have assembled : assemble table options changed = assemble table options source :=
    changes.assemble_eq (fun _ _ added => added.ofLine?_eq options.fieldStyle) table
  refine ⟨assembled, ?_⟩
  unfold assembleWithSidecar
  rw [assembled]
  refine congrArg (assemble table options source >>= ·) (funext fun assembly => ?_)
  rw [changes.sidecar_eq fun _ _ added => added.trimEnd_eq]

/-- What stands behind the fields of a line does not matter. A source is assembled alike, with the
same sidecar, if its line feeds are written with carriage returns and if blanks are added to its
lines. It is assembled alike if any text is added behind a blank to lines of three tokens. -/
theorem assemble_trailing_layout (table : OpcodeTable) (options : Options) :
    (∀ source, assemble table options (withReturns source) = assemble table options source ∧
      assembleWithSidecar table options (withReturns source) =
        assembleWithSidecar table options source) ∧
    (∀ source changed, ChangedLines BlanksAdded source changed →
      assemble table options changed = assemble table options source ∧
        assembleWithSidecar table options changed = assembleWithSidecar table options source) ∧
    ∀ source changed, ChangedLines NoteAdded source changed →
      assemble table options changed = assemble table options source :=
  ⟨fun source => (changedLines_withReturns source).blanks table options,
    fun _ _ changes => changes.blanks table options,
    fun _ _ changes =>
      changes.assemble_eq (fun _ _ added => added.ofLine?_eq options.fieldStyle) table⟩

/-- A source with both line ends whose last line is not ended. A carriage return is added, a tab
before one, a blank behind a token that stands alone and a wide one at the very end; a note that
mentions `END` is added to a line of three tokens. -/
theorem assemble_trailing_layout_of_mixed_ends :
    let source := "P START 10\nA LDA A\r\nRSUB\n END"
    let blanks := "P START 10\r\nA LDA A\t\r\nRSUB \n END\u3000"
    let noted := "P START 10 END here\nA LDA A\r\nRSUB\n END"
    ChangedLines BlanksAdded source blanks ∧ ChangedLines NoteAdded source noted ∧
    ∃ assembly, assemble .sicMachine {} source = .ok assembly ∧
      assemble .sicMachine {} (withReturns source) = .ok assembly ∧
      assemble .sicMachine {} blanks = .ok assembly ∧
      assemble .sicMachine {} noted = .ok assembly ∧
      assembleWithSidecar .sicMachine {} blanks = assembleWithSidecar .sicMachine {} source := by
  intro source blanks noted
  have found : pieces (· = '\n') source.toList =
      ["P START 10".toList, "A LDA A".toList ++ ['\r'], "RSUB".toList, " END".toList] := by
    decide +kernel
  have foundBlanks : pieces (· = '\n') blanks.toList =
      ["P START 10".toList ++ ['\r'], "A LDA A".toList ++ ['\t'] ++ ['\r'],
        "RSUB".toList ++ [' '], " END".toList ++ ['\u3000']] := by
    decide +kernel
  have foundNoted : pieces (· = '\n') noted.toList =
      ["P START 10".toList ++ " END here".toList, "A LDA A".toList ++ ['\r'], "RSUB".toList,
        " END".toList] := by
    decide +kernel
  have blank (character : Char) (is : isBlank character = true) : IsBlankText [character] :=
    List.forall_mem_singleton.mpr is
  have blanksAdded : ChangedLines BlanksAdded source blanks := by
    rw [ChangedLines, found, foundBlanks]
    exact .cons ⟨_, blank '\r' (by decide), .atEnd _⟩
      (.cons ⟨_, blank '\t' (by decide), .beforeReturn _⟩
        (.cons ⟨_, blank ' ' (by decide), .atEnd _⟩
          (.cons ⟨_, blank '\u3000' (by decide), .atEnd _⟩ .nil)))
  have noteAdded : ChangedLines NoteAdded source noted := by
    rw [ChangedLines, found, foundNoted]
    exact .cons (Or.inr ⟨by decide +kernel, _, by decide +kernel, .atEnd _⟩)
      (.cons (Or.inl rfl) (.cons (Or.inl rfl) (.cons (Or.inl rfl) .nil)))
  obtain ⟨returns, blanksLaw, noteLaw⟩ := assemble_trailing_layout .sicMachine {}
  refine ⟨blanksAdded, noteAdded, ?_⟩
  refine exists_ok_and (fun _ => true) (by decide +kernel) fun assembly assembled _ => ?_
  exact ⟨(returns source).1.trans assembled, (blanksLaw _ _ blanksAdded).1.trans assembled,
    (noteLaw _ _ noteAdded).trans assembled, (blanksLaw _ _ blanksAdded).2⟩

end SicAssembler
